import EditGuard.Unicode.Run

/-!
# Properties of punctuation

Dashes, quotation marks, blanks, and the marks that end a clause or a sentence.
-/

namespace EditGuard.Unicode

def dashRuns : List Run :=
  Table.runs ["2D 58A 5BE 1400 1806 2010-2015 2053 207B 208B 2212 2E17 2E1A 2E3A-2E3B 2E40 2E5D",
     "301C 3030 30A0 FE31-FE32 FE58 FE63 FF0D 10D6E 10EAD"]

def hyphenRuns : List Run :=
  Table.runs ["2D AD 58A 1806 2010-2011 2E17 30FB FE63 FF0D FF65"]

def quotationMarkRuns : List Run :=
  Table.runs ["22 27 AB BB 2018-201F 2039-203A 2E42 300C-300F 301D-301F FE41-FE44 FF02 FF07",
     "FF62-FF63"]

def sentenceTerminalRuns : List Run :=
  Table.runs ["21 2E 3F 589 61D-61F 6D4 700-702 7F9 837 839 83D-83E 964-965 104A-104B 1362",
     "1367-1368 166E 1735-1736 17D4-17D5 1803 1809 1944-1945 1AA8-1AAB 1B4E-1B4F",
     "1B5A-1B5B 1B5E-1B5F 1B7D-1B7F 1C3B-1C3C 1C7E-1C7F 2024 203C-203D 2047-2049",
     "2CF9-2CFB 2E2E 2E3C 2E53-2E54 3002 A4FF A60E-A60F A6F3 A6F7 A876-A877 A8CE-A8CF",
     "A92F A9C8-A9C9 AA5D-AA5F AAF0-AAF1 ABEB FE12 FE15-FE16 FE52 FE56-FE57 FF01 FF0E",
     "FF1F FF61 10A56-10A57 10F55-10F59 10F86-10F89 11047-11048 110BE-110C1",
     "11141-11143 111C5-111C6 111CD 111DE-111DF 11238-11239 1123B-1123C 112A9",
     "113D4-113D5 1144B-1144C 115C2-115C3 115C9-115D7 11641-11642 1173C-1173E 11944",
     "11946 11A42-11A43 11A9B-11A9C 11C41-11C42 11EF7-11EF8 11F43-11F44 16A6E-16A6F",
     "16AF5 16B37-16B38 16B44 16D6E-16D6F 16E98 1BC9F 1DA88"]

def terminalPunctuationRuns : List Run :=
  Table.runs ["21 2C 2E 3A-3B 3F 37E 387 589 5C3 60C 61B 61D-61F 6D4 700-70A 70C 7F8-7F9",
     "830-835 837-83E 85E 964-965 E5A-E5B F08 F0D-F12 104A-104B 1361-1368 166E",
     "16EB-16ED 1735-1736 17D4-17D6 17DA 1802-1805 1808-1809 1944-1945 1AA8-1AAB",
     "1B4E-1B4F 1B5A-1B5B 1B5D-1B5F 1B7D-1B7F 1C3B-1C3F 1C7E-1C7F 2024 203C-203D",
     "2047-2049 2CF9-2CFB 2E2E 2E3C 2E41 2E4C 2E4E-2E4F 2E53-2E54 3001-3002 A4FE-A4FF",
     "A60D-A60F A6F3-A6F7 A876-A877 A8CE-A8CF A92F A9C7-A9C9 AA5D-AA5F AADF AAF0-AAF1",
     "ABEB FE12 FE15-FE16 FE50-FE52 FE54-FE57 FF01 FF0C FF0E FF1A-FF1B FF1F FF61 FF64",
     "1039F 103D0 10857 1091F 10A56-10A57 10AF0-10AF5 10B3A-10B3F 10B99-10B9C",
     "10F55-10F59 10F86-10F89 11047-1104D 110BE-110C1 11141-11143 111C5-111C6 111CD",
     "111DE-111DF 11238-1123C 112A9 113D4-113D5 1144B-1144D 1145A-1145B 115C2-115C5",
     "115C9-115D7 11641-11642 1173C-1173E 11944 11946 11A42-11A43 11A9B-11A9C",
     "11AA1-11AA2 11C41-11C43 11C71 11EF7-11EF8 11F43-11F44 12470-12474 16A6E-16A6F",
     "16AF5 16B37-16B39 16B44 16D6E-16D6F 16E97-16E98 1BC9F 1DA87-1DA8A"]

def whiteSpaceRuns : List Run :=
  Table.runs ["9-D 20 85 A0 1680 2000-200A 2028-2029 202F 205F 3000"]

def punctuationProperties : List CharClass :=
  [⟨"Dash", "Dash", dashRuns⟩,
    ⟨"Hyphen", "Hyphen", hyphenRuns⟩,
    ⟨"Quotation_Mark", "QMark", quotationMarkRuns⟩,
    ⟨"Sentence_Terminal", "STerm", sentenceTerminalRuns⟩,
    ⟨"Terminal_Punctuation", "Term", terminalPunctuationRuns⟩,
    ⟨"White_Space", "WSpace", whiteSpaceRuns⟩]

end EditGuard.Unicode
