import EditGuard.Unicode.Run

/-!
# Properties of ideographs

Ideographs, their radicals, and the operators that describe them.
-/

namespace EditGuard.Unicode

def ideographicRuns : List Run :=
  Table.runs ["3006-3007 3021-3029 3038-303A 3400-4DBF 4E00-9FFF F900-FA6D FA70-FAD9 16FE4",
     "17000-187F7 18800-18CD5 18CFF-18D08 1B170-1B2FB 20000-2A6DF 2A700-2B739",
     "2B740-2B81D 2B820-2CEA1 2CEB0-2EBE0 2EBF0-2EE5D 2F800-2FA1D 30000-3134A",
     "31350-323AF"]

def unifiedIdeographRuns : List Run :=
  Table.runs ["3400-4DBF 4E00-9FFF FA0E-FA0F FA11 FA13-FA14 FA1F FA21 FA23-FA24 FA27-FA29",
     "20000-2A6DF 2A700-2B739 2B740-2B81D 2B820-2CEA1 2CEB0-2EBE0 2EBF0-2EE5D",
     "30000-3134A 31350-323AF"]

def radicalRuns : List Run :=
  Table.runs ["2E80-2E99 2E9B-2EF3 2F00-2FD5"]

def idsUnaryOperatorRuns : List Run :=
  Table.runs ["2FFE-2FFF"]

def idsBinaryOperatorRuns : List Run :=
  Table.runs ["2FF0-2FF1 2FF4-2FFD 31EF"]

def idsTrinaryOperatorRuns : List Run :=
  Table.runs ["2FF2-2FF3"]

def ideographProperties : List CharClass :=
  [⟨"Ideographic", "Ideo", ideographicRuns⟩,
    ⟨"Unified_Ideograph", "UIdeo", unifiedIdeographRuns⟩,
    ⟨"Radical", "Radical", radicalRuns⟩,
    ⟨"IDS_Unary_Operator", "IDSU", idsUnaryOperatorRuns⟩,
    ⟨"IDS_Binary_Operator", "IDSB", idsBinaryOperatorRuns⟩,
    ⟨"IDS_Trinary_Operator", "IDST", idsTrinaryOperatorRuns⟩]

end EditGuard.Unicode
