import EditGuard.Pattern.CharSet
import EditGuard.Unicode.Age
import EditGuard.Unicode.Break.Grapheme
import EditGuard.Unicode.Break.Sentence
import EditGuard.Unicode.Break.Word
import EditGuard.Unicode.Property
import EditGuard.Unicode.Script

/-!
# Properties by name

The Unicode properties, categories and scripts that a pattern may name.  Names
are compared without regard to case, blanks, hyphens and underscores, and a
leading `is` does not count.
-/

namespace EditGuard.Pattern

open Unicode

/-- A name without what does not count in it. -/
def normalName (name : List Char) : String :=
  let starts := name.take 2 |>.map Char.toLower
  let body := if starts = ['i', 's'] then name.drop 2 else name
  let kept := body.filterMap fun c =>
    if c = ' ' ∨ c = '_' ∨ c = '-' ∨ 0x7F < c.toNat then none else some c.toLower
  String.ofList (if starts = ['i', 's'] ∧ kept = ['c'] then ['i', 's', 'c'] else kept)

/-- Whether a normal name is the normal form of a full name or of a code. -/
def named (normal fullName code : String) : Bool :=
  normal == normalName fullName.toList || normal == normalName code.toList

/-- Groups of categories, with their names. -/
def categoryGroups : List (List String × List Category) :=
  [(["lc", "casedletter"], [.uppercaseLetter, .lowercaseLetter, .titlecaseLetter]),
    (["l", "letter"], [.uppercaseLetter, .lowercaseLetter, .titlecaseLetter,
      .modifierLetter, .otherLetter]),
    (["m", "mark", "combiningmark"], [.nonspacingMark, .spacingMark, .enclosingMark]),
    (["n", "number"], [.decimalNumber, .letterNumber, .otherNumber]),
    (["digit"], [.decimalNumber]),
    (["p", "punctuation", "punct"], [.connectorPunctuation, .dashPunctuation,
      .openPunctuation, .closePunctuation, .initialPunctuation, .finalPunctuation,
      .otherPunctuation]),
    (["s", "symbol"], [.mathSymbol, .currencySymbol, .modifierSymbol, .otherSymbol]),
    (["z", "separator"], [.spaceSeparator, .lineSeparator, .paragraphSeparator]),
    (["cntrl"], [.control])]

/-- The categories that are assigned but neither letters nor any other of the
groups: controls, formats, surrogates and private use. -/
def otherCategories : List Category :=
  [.control, .format, .surrogate, .privateUse]

/-- The unassigned code points. -/
def unassigned : CharSet :=
  .compl (.category Category.all)

/-- The set of a category or a group of categories.  Surrogates are no
characters, and their category cannot be named. -/
def categorySet? (normal : String) : Option CharSet :=
  if normal == "any" then some .any
  else if normal == "assigned" then some (.category Category.all)
  else if normal == "ascii" then some (.range 0 0x7F)
  else if normal == "cn" || normal == "unassigned" then some unassigned
  else if normal == "c" || normal == "other" then
    some (.union (.category otherCategories) unassigned)
  else
    match categoryGroups.find? fun g => g.1.contains normal with
    | some g => some (.category g.2)
    | none =>
        (Category.all.find? fun c =>
          c != .surrogate && named normal c.fullName c.code).map fun c => .category [c]

/-- The script of a name, of a code or of a former code. -/
def script? (normal : String) : Option Script :=
  let normal :=
    match formerScriptCodes.find? fun codes => normal == normalName codes.1.toList with
    | some codes => normalName codes.2.toList
    | none => normal
  scripts.find? fun s => named normal s.fullName s.code

/-- The set of a script. -/
def scriptSet? (normal : String) : Option CharSet :=
  (script? normal).map fun s => .runs s.runs

/-- The code points that several scripts use. -/
def sharedRuns : List Run :=
  scripts.flatMap (·.shared)

/-- The set of all that a script uses.  A shared code point counts for the scripts
that share it, and any other for its own script. -/
def extensionSet? (normal : String) : Option CharSet :=
  (script? normal).map fun s =>
    .union (.diff (.runs s.runs) (.runs sharedRuns)) (.runs s.shared)

/-- The set of what an edition of the character tables or an older one assigns. -/
def ageSet? (normal : String) : Option CharSet :=
  (editions.findIdx? fun e => named normal e.fullName e.code).map fun i =>
    .runs ((editions.take (i + 1)).flatMap (·.runs))

/-- The set of one of several named classes. -/
def classSet? (classes : List CharClass) (normal : String) : Option CharSet :=
  (classes.find? fun c => named normal c.fullName c.code).map fun c => .runs c.runs

/-- The set of a property that has no values. -/
def binarySet? (normal : String) : Option CharSet :=
  if normal == "space" then some .space else classSet? properties normal

/-- The set that a name by itself stands for: a property, a category, or a
script. -/
def propertySet? (name : List Char) : Option CharSet :=
  let normal := normalName name
  binarySet? normal <|> categorySet? normal <|> scriptSet? normal

/-- The set of a property with a value. -/
def valueSet? (property value : List Char) : Option CharSet :=
  let value := normalName value
  match normalName property with
  | "gc" | "generalcategory" => categorySet? value
  | "sc" | "script" => scriptSet? value
  | "scx" | "scriptextensions" => extensionSet? value
  | "age" => ageSet? value
  | "gcb" | "graphemeclusterbreak" => classSet? GraphemeBreak.all value
  | "wb" | "wordbreak" => classSet? WordBreak.all value
  | "sb" | "sentencebreak" => classSet? SentenceBreak.all value
  | _ => none

end EditGuard.Pattern
