import EditGuard.Unicode.Script.Own
import EditGuard.Unicode.Script.Shared

/-!
# Scripts

The Unicode scripts with their names and code points.
-/

namespace EditGuard.Unicode

/-- A script: its full name, its code, the code points that are of this script and
no other, and those that it shares. -/
structure Script where
  fullName : String
  code : String
  runs : List Run
  shared : List Run

def scripts : List Script :=
  [⟨"Adlam", "Adlm", adlamRuns, adlamShared⟩,
    ⟨"Ahom", "Ahom", ahomRuns, []⟩,
    ⟨"Anatolian_Hieroglyphs", "Hluw", anatolianHieroglyphsRuns, []⟩,
    ⟨"Arabic", "Arab", arabicRuns, arabicShared⟩,
    ⟨"Armenian", "Armn", armenianRuns, armenianShared⟩,
    ⟨"Avestan", "Avst", avestanRuns, avestanShared⟩,
    ⟨"Balinese", "Bali", balineseRuns, []⟩,
    ⟨"Bamum", "Bamu", bamumRuns, []⟩,
    ⟨"Bassa_Vah", "Bass", bassaVahRuns, []⟩,
    ⟨"Batak", "Batk", batakRuns, []⟩,
    ⟨"Bengali", "Beng", bengaliRuns, bengaliShared⟩,
    ⟨"Bhaiksuki", "Bhks", bhaiksukiRuns, []⟩,
    ⟨"Bopomofo", "Bopo", bopomofoRuns, bopomofoShared⟩,
    ⟨"Brahmi", "Brah", brahmiRuns, []⟩,
    ⟨"Braille", "Brai", brailleRuns, []⟩,
    ⟨"Buginese", "Bugi", bugineseRuns, bugineseShared⟩,
    ⟨"Buhid", "Buhd", buhidRuns, buhidShared⟩,
    ⟨"Canadian_Aboriginal", "Cans", canadianAboriginalRuns, []⟩,
    ⟨"Carian", "Cari", carianRuns, carianShared⟩,
    ⟨"Caucasian_Albanian", "Aghb", caucasianAlbanianRuns, caucasianAlbanianShared⟩,
    ⟨"Chakma", "Cakm", chakmaRuns, chakmaShared⟩,
    ⟨"Cham", "Cham", chamRuns, []⟩,
    ⟨"Cherokee", "Cher", cherokeeRuns, cherokeeShared⟩,
    ⟨"Chorasmian", "Chrs", chorasmianRuns, []⟩,
    ⟨"Common", "Zyyy", commonRuns, []⟩,
    ⟨"Coptic", "Copt", copticRuns, copticShared⟩,
    ⟨"Cuneiform", "Xsux", cuneiformRuns, []⟩,
    ⟨"Cypriot", "Cprt", cypriotRuns, cypriotShared⟩,
    ⟨"Cypro_Minoan", "Cpmn", cyproMinoanRuns, cyproMinoanShared⟩,
    ⟨"Cyrillic", "Cyrl", cyrillicRuns, cyrillicShared⟩,
    ⟨"Deseret", "Dsrt", deseretRuns, []⟩,
    ⟨"Devanagari", "Deva", devanagariRuns, devanagariShared⟩,
    ⟨"Dives_Akuru", "Diak", divesAkuruRuns, []⟩,
    ⟨"Dogra", "Dogr", dograRuns, dograShared⟩,
    ⟨"Duployan", "Dupl", duployanRuns, duployanShared⟩,
    ⟨"Egyptian_Hieroglyphs", "Egyp", egyptianHieroglyphsRuns, []⟩,
    ⟨"Elbasan", "Elba", elbasanRuns, elbasanShared⟩,
    ⟨"Elymaic", "Elym", elymaicRuns, []⟩,
    ⟨"Ethiopic", "Ethi", ethiopicRuns, ethiopicShared⟩,
    ⟨"Garay", "Gara", garayRuns, garayShared⟩,
    ⟨"Georgian", "Geor", georgianRuns, georgianShared⟩,
    ⟨"Glagolitic", "Glag", glagoliticRuns, glagoliticShared⟩,
    ⟨"Gothic", "Goth", gothicRuns, gothicShared⟩,
    ⟨"Grantha", "Gran", granthaRuns, granthaShared⟩,
    ⟨"Greek", "Grek", greekRuns, greekShared⟩,
    ⟨"Gujarati", "Gujr", gujaratiRuns, gujaratiShared⟩,
    ⟨"Gunjala_Gondi", "Gong", gunjalaGondiRuns, gunjalaGondiShared⟩,
    ⟨"Gurmukhi", "Guru", gurmukhiRuns, gurmukhiShared⟩,
    ⟨"Gurung_Khema", "Gukh", gurungKhemaRuns, gurungKhemaShared⟩,
    ⟨"Han", "Hani", hanRuns, hanShared⟩,
    ⟨"Hangul", "Hang", hangulRuns, hangulShared⟩,
    ⟨"Hanifi_Rohingya", "Rohg", hanifiRohingyaRuns, hanifiRohingyaShared⟩,
    ⟨"Hanunoo", "Hano", hanunooRuns, hanunooShared⟩,
    ⟨"Hatran", "Hatr", hatranRuns, []⟩,
    ⟨"Hebrew", "Hebr", hebrewRuns, hebrewShared⟩,
    ⟨"Hiragana", "Hira", hiraganaRuns, hiraganaShared⟩,
    ⟨"Imperial_Aramaic", "Armi", imperialAramaicRuns, []⟩,
    ⟨"Inherited", "Zinh", inheritedRuns, []⟩,
    ⟨"Inscriptional_Pahlavi", "Phli", inscriptionalPahlaviRuns, []⟩,
    ⟨"Inscriptional_Parthian", "Prti", inscriptionalParthianRuns, []⟩,
    ⟨"Javanese", "Java", javaneseRuns, javaneseShared⟩,
    ⟨"Kaithi", "Kthi", kaithiRuns, kaithiShared⟩,
    ⟨"Kannada", "Knda", kannadaRuns, kannadaShared⟩,
    ⟨"Katakana", "Kana", katakanaRuns, katakanaShared⟩,
    ⟨"Kawi", "Kawi", kawiRuns, []⟩,
    ⟨"Kayah_Li", "Kali", kayahLiRuns, kayahLiShared⟩,
    ⟨"Kharoshthi", "Khar", kharoshthiRuns, []⟩,
    ⟨"Khitan_Small_Script", "Kits", khitanSmallScriptRuns, []⟩,
    ⟨"Khmer", "Khmr", khmerRuns, []⟩,
    ⟨"Khojki", "Khoj", khojkiRuns, khojkiShared⟩,
    ⟨"Khudawadi", "Sind", khudawadiRuns, khudawadiShared⟩,
    ⟨"Kirat_Rai", "Krai", kiratRaiRuns, []⟩,
    ⟨"Lao", "Laoo", laoRuns, []⟩,
    ⟨"Latin", "Latn", latinRuns, latinShared⟩,
    ⟨"Lepcha", "Lepc", lepchaRuns, []⟩,
    ⟨"Limbu", "Limb", limbuRuns, limbuShared⟩,
    ⟨"Linear_A", "Lina", linearARuns, linearAShared⟩,
    ⟨"Linear_B", "Linb", linearBRuns, linearBShared⟩,
    ⟨"Lisu", "Lisu", lisuRuns, lisuShared⟩,
    ⟨"Lycian", "Lyci", lycianRuns, lycianShared⟩,
    ⟨"Lydian", "Lydi", lydianRuns, lydianShared⟩,
    ⟨"Mahajani", "Mahj", mahajaniRuns, mahajaniShared⟩,
    ⟨"Makasar", "Maka", makasarRuns, []⟩,
    ⟨"Malayalam", "Mlym", malayalamRuns, malayalamShared⟩,
    ⟨"Mandaic", "Mand", mandaicRuns, mandaicShared⟩,
    ⟨"Manichaean", "Mani", manichaeanRuns, manichaeanShared⟩,
    ⟨"Marchen", "Marc", marchenRuns, []⟩,
    ⟨"Masaram_Gondi", "Gonm", masaramGondiRuns, masaramGondiShared⟩,
    ⟨"Medefaidrin", "Medf", medefaidrinRuns, []⟩,
    ⟨"Meetei_Mayek", "Mtei", meeteiMayekRuns, []⟩,
    ⟨"Mende_Kikakui", "Mend", mendeKikakuiRuns, []⟩,
    ⟨"Meroitic_Cursive", "Merc", meroiticCursiveRuns, []⟩,
    ⟨"Meroitic_Hieroglyphs", "Mero", meroiticHieroglyphsRuns, meroiticHieroglyphsShared⟩,
    ⟨"Miao", "Plrd", miaoRuns, []⟩,
    ⟨"Modi", "Modi", modiRuns, modiShared⟩,
    ⟨"Mongolian", "Mong", mongolianRuns, mongolianShared⟩,
    ⟨"Mro", "Mroo", mroRuns, []⟩,
    ⟨"Multani", "Mult", multaniRuns, multaniShared⟩,
    ⟨"Myanmar", "Mymr", myanmarRuns, myanmarShared⟩,
    ⟨"Nabataean", "Nbat", nabataeanRuns, []⟩,
    ⟨"Nag_Mundari", "Nagm", nagMundariRuns, []⟩,
    ⟨"Nandinagari", "Nand", nandinagariRuns, nandinagariShared⟩,
    ⟨"New_Tai_Lue", "Talu", newTaiLueRuns, []⟩,
    ⟨"Newa", "Newa", newaRuns, newaShared⟩,
    ⟨"Nko", "Nkoo", nkoRuns, nkoShared⟩,
    ⟨"Nushu", "Nshu", nushuRuns, []⟩,
    ⟨"Nyiakeng_Puachue_Hmong", "Hmnp", nyiakengPuachueHmongRuns, []⟩,
    ⟨"Ogham", "Ogam", oghamRuns, []⟩,
    ⟨"Ol_Chiki", "Olck", olChikiRuns, []⟩,
    ⟨"Ol_Onal", "Onao", olOnalRuns, olOnalShared⟩,
    ⟨"Old_Hungarian", "Hung", oldHungarianRuns, oldHungarianShared⟩,
    ⟨"Old_Italic", "Ital", oldItalicRuns, []⟩,
    ⟨"Old_North_Arabian", "Narb", oldNorthArabianRuns, []⟩,
    ⟨"Old_Permic", "Perm", oldPermicRuns, oldPermicShared⟩,
    ⟨"Old_Persian", "Xpeo", oldPersianRuns, []⟩,
    ⟨"Old_Sogdian", "Sogo", oldSogdianRuns, []⟩,
    ⟨"Old_South_Arabian", "Sarb", oldSouthArabianRuns, []⟩,
    ⟨"Old_Turkic", "Orkh", oldTurkicRuns, oldTurkicShared⟩,
    ⟨"Old_Uyghur", "Ougr", oldUyghurRuns, oldUyghurShared⟩,
    ⟨"Oriya", "Orya", oriyaRuns, oriyaShared⟩,
    ⟨"Osage", "Osge", osageRuns, osageShared⟩,
    ⟨"Osmanya", "Osma", osmanyaRuns, []⟩,
    ⟨"Pahawh_Hmong", "Hmng", pahawhHmongRuns, []⟩,
    ⟨"Palmyrene", "Palm", palmyreneRuns, []⟩,
    ⟨"Pau_Cin_Hau", "Pauc", pauCinHauRuns, []⟩,
    ⟨"Phags_Pa", "Phag", phagsPaRuns, phagsPaShared⟩,
    ⟨"Phoenician", "Phnx", phoenicianRuns, []⟩,
    ⟨"Psalter_Pahlavi", "Phlp", psalterPahlaviRuns, psalterPahlaviShared⟩,
    ⟨"Rejang", "Rjng", rejangRuns, []⟩,
    ⟨"Runic", "Runr", runicRuns, runicShared⟩,
    ⟨"Samaritan", "Samr", samaritanRuns, samaritanShared⟩,
    ⟨"Saurashtra", "Saur", saurashtraRuns, []⟩,
    ⟨"Sharada", "Shrd", sharadaRuns, sharadaShared⟩,
    ⟨"Shavian", "Shaw", shavianRuns, shavianShared⟩,
    ⟨"Siddham", "Sidd", siddhamRuns, []⟩,
    ⟨"SignWriting", "Sgnw", signwritingRuns, []⟩,
    ⟨"Sinhala", "Sinh", sinhalaRuns, sinhalaShared⟩,
    ⟨"Sogdian", "Sogd", sogdianRuns, sogdianShared⟩,
    ⟨"Sora_Sompeng", "Sora", soraSompengRuns, []⟩,
    ⟨"Soyombo", "Soyo", soyomboRuns, []⟩,
    ⟨"Sundanese", "Sund", sundaneseRuns, []⟩,
    ⟨"Sunuwar", "Sunu", sunuwarRuns, sunuwarShared⟩,
    ⟨"Syloti_Nagri", "Sylo", sylotiNagriRuns, sylotiNagriShared⟩,
    ⟨"Syriac", "Syrc", syriacRuns, syriacShared⟩,
    ⟨"Tagalog", "Tglg", tagalogRuns, tagalogShared⟩,
    ⟨"Tagbanwa", "Tagb", tagbanwaRuns, tagbanwaShared⟩,
    ⟨"Tai_Le", "Tale", taiLeRuns, taiLeShared⟩,
    ⟨"Tai_Tham", "Lana", taiThamRuns, []⟩,
    ⟨"Tai_Viet", "Tavt", taiVietRuns, []⟩,
    ⟨"Takri", "Takr", takriRuns, takriShared⟩,
    ⟨"Tamil", "Taml", tamilRuns, tamilShared⟩,
    ⟨"Tangsa", "Tnsa", tangsaRuns, []⟩,
    ⟨"Tangut", "Tang", tangutRuns, tangutShared⟩,
    ⟨"Telugu", "Telu", teluguRuns, teluguShared⟩,
    ⟨"Thaana", "Thaa", thaanaRuns, thaanaShared⟩,
    ⟨"Thai", "Thai", thaiRuns, thaiShared⟩,
    ⟨"Tibetan", "Tibt", tibetanRuns, tibetanShared⟩,
    ⟨"Tifinagh", "Tfng", tifinaghRuns, tifinaghShared⟩,
    ⟨"Tirhuta", "Tirh", tirhutaRuns, tirhutaShared⟩,
    ⟨"Todhri", "Todr", todhriRuns, todhriShared⟩,
    ⟨"Toto", "Toto", totoRuns, totoShared⟩,
    ⟨"Tulu_Tigalari", "Tutg", tuluTigalariRuns, tuluTigalariShared⟩,
    ⟨"Ugaritic", "Ugar", ugariticRuns, []⟩,
    ⟨"Vai", "Vaii", vaiRuns, []⟩,
    ⟨"Vithkuqi", "Vith", vithkuqiRuns, []⟩,
    ⟨"Wancho", "Wcho", wanchoRuns, []⟩,
    ⟨"Warang_Citi", "Wara", warangCitiRuns, []⟩,
    ⟨"Yezidi", "Yezi", yezidiRuns, yezidiShared⟩,
    ⟨"Yi", "Yiii", yiRuns, yiShared⟩,
    ⟨"Zanabazar_Square", "Zanb", zanabazarSquareRuns, []⟩]

/-- Codes that scripts had before the ones they have now. -/
def formerScriptCodes : List (String × String) :=
  [("Qaac", "Copt"), ("Qaai", "Zinh")]

end EditGuard.Unicode
