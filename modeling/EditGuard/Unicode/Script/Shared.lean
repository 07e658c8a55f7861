import EditGuard.Unicode.Run

/-!
# Shared code points

Code points that several scripts use, for each script that uses some.
-/

namespace EditGuard.Unicode

def adlamShared : List Run :=
  Table.runs ["61F 640 204F 2E41"]

def arabicShared : List Run :=
  Table.runs ["60C 61B-61C 61F 640 64B-655 660-669 670 6D4 204F 2E41 FD3E-FD3F FDF2 FDFD",
     "102E0-102FB"]

def armenianShared : List Run :=
  Table.runs ["308 589"]

def avestanShared : List Run :=
  Table.runs ["B7 2E30-2E31"]

def bengaliShared : List Run :=
  Table.runs ["2BC 951-952 964-965 9E6-9EF 1CD0 1CD2 1CD5-1CD6 1CD8-1CEA/9 1CED 1CF2 1CF5-1CF7",
     "A8F1"]

def bopomofoShared : List Run :=
  Table.runs ["2C7 2C9-2CB 2D9 3001-3003 3008-3011 3013-301F 302A-302D 3030 3037 30FB FE45-FE46",
     "FF61-FF65"]

def bugineseShared : List Run :=
  Table.runs ["A9CF"]

def buhidShared : List Run :=
  Table.runs ["1735-1736"]

def carianShared : List Run :=
  Table.runs ["B7 205A 205D 2E31"]

def caucasianAlbanianShared : List Run :=
  Table.runs ["304-35E/2D"]

def chakmaShared : List Run :=
  Table.runs ["9E6-9EF 1040-1049"]

def cherokeeShared : List Run :=
  Table.runs ["300-302 304 30B-30C 323-324 330-331"]

def copticShared : List Run :=
  Table.runs ["B7 300 304-305 307 374-375 2E17 102E0-102FB"]

def cypriotShared : List Run :=
  Table.runs ["10100-10102 10107-10133 10137-1013F"]

def cyproMinoanShared : List Run :=
  Table.runs ["10100-10101"]

def cyrillicShared : List Run :=
  Table.runs ["2BC 300-302 304-308/2 30B 311 483-487 1DF8 2E43 A66F"]

def devanagariShared : List Run :=
  Table.runs ["2BC 951-952 964-96F 1CD0-1CF6 1CF8-1CF9 20F0 A830-A839 A8F1 A8F3"]

def dograShared : List Run :=
  Table.runs ["964-96F A830-A839"]

def duployanShared : List Run :=
  Table.runs ["B7 307-308 30A 323-324 2E3C 1BCA0-1BCA3"]

def elbasanShared : List Run :=
  Table.runs ["B7 305"]

def ethiopicShared : List Run :=
  Table.runs ["30E"]

def garayShared : List Run :=
  Table.runs ["60C 61B 61F"]

def georgianShared : List Run :=
  Table.runs ["B7 589 10FB 205A 2E31"]

def glagoliticShared : List Run :=
  Table.runs ["B7 303 305 484 487 589 10FB 205A 2E43 A66F"]

def gothicShared : List Run :=
  Table.runs ["B7 304-305 308 331"]

def granthaShared : List Run :=
  Table.runs ["951-952 964-965 BE6-BF3 1CD0 1CD2-1CD3 1CF2-1CF4 1CF8-1CF9 20F0 11301 11303",
     "1133B-1133C 11FD0-11FD1 11FD3"]

def greekShared : List Run :=
  Table.runs ["B7 300-301 304-308/2 313 342 345 374-375 1DC0-1DC1 205D"]

def gujaratiShared : List Run :=
  Table.runs ["951-952 964-965 AE6-AEF A830-A839"]

def gunjalaGondiShared : List Run :=
  Table.runs ["B7 964-965"]

def gurmukhiShared : List Run :=
  Table.runs ["951-952 964-965 A66-A6F A830-A839"]

def gurungKhemaShared : List Run :=
  Table.runs ["965"]

def hanShared : List Run :=
  Table.runs ["B7 2FF0-2FFF 3001-3003 3006 3008-3011 3013-301F 302A-302D 3030 3037 303C-303F",
     "30FB 3190-319F 31C0-31E5 31EF 3220-3247 3280-32B0 32C0-32CB 32FF 3358-3370",
     "337B-337F 33E0-33FE A700-A707 FE45-FE46 FF61-FF65 1D360-1D371 1F250-1F251"]

def hangulShared : List Run :=
  Table.runs ["3001-3003 3008-3011 3013-301F 3030 3037 30FB FE45-FE46 FF61-FF65"]

def hanifiRohingyaShared : List Run :=
  Table.runs ["60C 61B 61F 640 6D4"]

def hanunooShared : List Run :=
  Table.runs ["1735-1736"]

def hebrewShared : List Run :=
  Table.runs ["307-308"]

def hiraganaShared : List Run :=
  Table.runs ["3001-3003 3008-3011 3013-301F 3030-3035 3037 303C-303D 3099-309C 30A0 30FB-30FC",
     "FE45-FE46 FF61-FF65 FF70 FF9E-FF9F"]

def javaneseShared : List Run :=
  Table.runs ["A9CF"]

def kaithiShared : List Run :=
  Table.runs ["966-96F 2E31 A830-A839"]

def kannadaShared : List Run :=
  Table.runs ["951-952 964-965 CE6-CEF 1CD0 1CD2-1CD3 1CDA 1CF2 1CF4 A830-A835"]

def katakanaShared : List Run :=
  Table.runs ["305 323 3001-3003 3008-3011 3013-301F 3030-3035 3037 303C-303D 3099-309C 30A0",
     "30FB-30FC FE45-FE46 FF61-FF65 FF70 FF9E-FF9F"]

def kayahLiShared : List Run :=
  Table.runs ["A92E"]

def khojkiShared : List Run :=
  Table.runs ["AE6-AEF A830-A839"]

def khudawadiShared : List Run :=
  Table.runs ["964-965 A830-A839"]

def latinShared : List Run :=
  Table.runs ["B7 2BC 2C7 2C9-2CB 2CD 2D7 2D9 300-30E 310-311 313 323-325 32D-32E 330-331 358",
     "35E 363-36F 485-486 951-952 10FB 1DF8 202F 20F0 2E17 A700-A707 A92E"]

def limbuShared : List Run :=
  Table.runs ["965"]

def linearAShared : List Run :=
  Table.runs ["10107-10133"]

def linearBShared : List Run :=
  Table.runs ["10100-10102 10107-10133 10137-1013F"]

def lisuShared : List Run :=
  Table.runs ["2BC 2CD 300A-300B"]

def lycianShared : List Run :=
  Table.runs ["205A"]

def lydianShared : List Run :=
  Table.runs ["B7 2E31"]

def mahajaniShared : List Run :=
  Table.runs ["B7 964-96F A830-A839"]

def malayalamShared : List Run :=
  Table.runs ["951-952 964-965 1CDA 1CF2 A830-A832"]

def mandaicShared : List Run :=
  Table.runs ["640"]

def manichaeanShared : List Run :=
  Table.runs ["640 10AF2"]

def masaramGondiShared : List Run :=
  Table.runs ["964-965"]

def meroiticHieroglyphsShared : List Run :=
  Table.runs ["205D"]

def modiShared : List Run :=
  Table.runs ["A830-A839"]

def mongolianShared : List Run :=
  Table.runs ["1802-1803 1805 202F 3001-3002 3008-300B"]

def multaniShared : List Run :=
  Table.runs ["A66-A6F"]

def myanmarShared : List Run :=
  Table.runs ["1040-1049 A92E"]

def nandinagariShared : List Run :=
  Table.runs ["951 964-965 CE6-CEF 1CE9 1CF2 1CFA A830-A835"]

def newaShared : List Run :=
  Table.runs ["951-952 1CD5 1CD7-1CD8 1CE2 1CE9-1CED/2"]

def nkoShared : List Run :=
  Table.runs ["60C 61B 61F FD3E-FD3F"]

def olOnalShared : List Run :=
  Table.runs ["964-965"]

def oldHungarianShared : List Run :=
  Table.runs ["205A 205D 2E31 2E41"]

def oldPermicShared : List Run :=
  Table.runs ["B7 300 306-308 313 483"]

def oldTurkicShared : List Run :=
  Table.runs ["205A 2E30"]

def oldUyghurShared : List Run :=
  Table.runs ["640 10AF2"]

def oriyaShared : List Run :=
  Table.runs ["951-952 964-965 1CDA 1CF2"]

def osageShared : List Run :=
  Table.runs ["301 304 30B 358"]

def phagsPaShared : List Run :=
  Table.runs ["1802-1803 1805 202F 3002"]

def psalterPahlaviShared : List Run :=
  Table.runs ["640"]

def runicShared : List Run :=
  Table.runs ["16EB-16ED"]

def samaritanShared : List Run :=
  Table.runs ["2E31"]

def sharadaShared : List Run :=
  Table.runs ["951 1CD7 1CD9 1CDC-1CDD 1CE0 1CEA 1CED A830-A835 A838"]

def shavianShared : List Run :=
  Table.runs ["B7"]

def sinhalaShared : List Run :=
  Table.runs ["964-965 1CF2"]

def sogdianShared : List Run :=
  Table.runs ["640"]

def sunuwarShared : List Run :=
  Table.runs ["300-301 303 30D 310 32D 331"]

def sylotiNagriShared : List Run :=
  Table.runs ["964-965 9E6-9EF"]

def syriacShared : List Run :=
  Table.runs ["303-304 307-308 30A 323-325 32D-32E 330-331 60C 61B-61C 61F 640 64B-655 670 1DF8",
     "1DFA"]

def tagalogShared : List Run :=
  Table.runs ["1735-1736"]

def tagbanwaShared : List Run :=
  Table.runs ["1735-1736"]

def taiLeShared : List Run :=
  Table.runs ["300-301 307-308 30C 1040-1049"]

def takriShared : List Run :=
  Table.runs ["964-965 A830-A839"]

def tamilShared : List Run :=
  Table.runs ["951-952 964-965 BE6-BF3 1CDA A8F3 11301 11303 1133B-1133C 11FD0-11FD1 11FD3"]

def tangutShared : List Run :=
  Table.runs ["2FF0-2FFF 31EF"]

def teluguShared : List Run :=
  Table.runs ["951-952 964-965 1CD5-1CD6 1CD8 1CDA 1CF2"]

def thaanaShared : List Run :=
  Table.runs ["60C 61B-61C 61F 660-669 FDF2 FDFD"]

def thaiShared : List Run :=
  Table.runs ["2BC 2D7 303 331"]

def tibetanShared : List Run :=
  Table.runs ["3008-300B"]

def tifinaghShared : List Run :=
  Table.runs ["302 304 306-309 323"]

def tirhutaShared : List Run :=
  Table.runs ["951-952 964-965 1CD5 1CE2 1CF2 A830-A839"]

def todhriShared : List Run :=
  Table.runs ["301-307/3 311 313 35E"]

def totoShared : List Run :=
  Table.runs ["2BC"]

def tuluTigalariShared : List Run :=
  Table.runs ["CE6-CEF 1CF2 1CF4 A830-A835 A8F1"]

def yezidiShared : List Run :=
  Table.runs ["60C 61B 61F 660-669"]

def yiShared : List Run :=
  Table.runs ["3001-3002 3008-3011 3014-301B 30FB FF61-FF65"]

end EditGuard.Unicode
