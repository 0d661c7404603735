import MarkupFeed.Unicode.Category

/-!
# The scripts of characters

The scripts of characters, after the properties `Script` and `Script_Extensions`, under the codes
of four letters of the scripts.

The table of scripts says nothing of code points that have none; there a stretch just goes on.
-/

namespace MarkupFeed.Unicode

/-- The code points by script, as far as they have one. -/
def scripts : Partition := .ofTable
  "Zyyy 41 Latn 1a Zyyy 6 Latn 1a Zyyy 2f Latn 1 Zyyy f Latn 1 Zyyy 5 Latn 17 Zyyy 1 Latn 1f Zyyy
   1 Latn 1c1 Zyyy 27 Latn 5 Zyyy 5 Bopo 2 Zyyy 14 Zinh 70 Grek 4 Zyyy 1 Grek 9 Zyyy 1 Grek 6 Zyyy
   1 Grek 1 Zyyy 1 Grek 5a Copt e Grek 10 Cyrl 85 Zinh 2 Cyrl aa Armn 60 Hebr 6f Arab 5 Zyyy 1
   Arab 6 Zyyy 1 Arab e Zyyy 1 Arab 3 Zyyy 1 Arab 20 Zyyy 1 Arab a Zinh b Arab 1a Zinh 1 Arab 6c
   Zyyy 1 Arab 22 Syrc 50 Arab 30 Thaa 40 Nkoo 40 Samr 40 Mand 20 Syrc 10 Arab 72 Zyyy 1 Arab 1d
   Deva 51 Zinh 4 Deva f Zyyy 2 Deva 1a Beng 81 Guru 80 Gujr 80 Orya 81 Taml 7e Telu 80 Knda 80
   Mlym 81 Sinh 80 Thai 3e Zyyy 1 Thai 41 Laoo 7f Tibt d5 Zyyy 4 Tibt 27 Mymr a0 Geor 5b Zyyy 1
   Geor 4 Hang 100 Ethi 1a0 Cher 60 Cans 280 Ogam 20 Runr 4b Zyyy 3 Runr 12 Tglg 20 Hano 15 Zyyy b
   Buhd 20 Tagb 20 Khmr 80 Mong 2 Zyyy 2 Mong 1 Zyyy 1 Mong aa Cans 50 Limb 50 Tale 30 Talu 60
   Khmr 20 Bugi 20 Lana 90 Zinh 50 Bali 80 Sund 40 Batk 40 Lepc 50 Olck 30 Cyrl 10 Geor 30 Sund 10
   Zinh 3 Zyyy 1 Zinh d Zyyy 1 Zinh 7 Zyyy 4 Zinh 1 Zyyy 6 Zinh 1 Zyyy 3 Zinh 2 Zyyy 6 Latn 26
   Grek 5 Cyrl 1 Latn 31 Grek 5 Latn 4 Grek 5 Latn d Cyrl 1 Latn 46 Grek 1 Zinh 40 Latn 100 Grek
   100 Zyyy c Zinh 2 Zyyy 63 Latn 3 Zyyy b Latn 1 Zyyy 10 Latn 10 Zyyy 30 Zinh 30 Zyyy 26 Grek 1
   Zyyy 3 Latn 2 Zyyy 6 Latn 1 Zyyy 1b Latn 1 Zyyy 11 Latn 29 Zyyy 677 Brai 100 Zyyy 300 Glag 60
   Latn 20 Copt 80 Geor 30 Tfng 50 Ethi 60 Cyrl 20 Zyyy 80 Hani 170 Zyyy 15 Hani 1 Zyyy 1 Hani 1
   Zyyy 19 Hani 9 Zinh 4 Hang 2 Zyyy 8 Hani 4 Zyyy 5 Hira 58 Zinh 2 Zyyy 2 Hira 3 Zyyy 1 Kana 5a
   Zyyy 2 Kana 8 Bopo 2c Hang 5f Zyyy 10 Bopo 20 Zyyy 30 Kana 10 Hang 20 Zyyy 40 Hang 1f Zyyy 51
   Kana 2f Zyyy 1 Kana 58 Zyyy a8 Hani 19c0 Zyyy 40 Hani 5200 Yiii 4d0 Lisu 30 Vaii 140 Cyrl 60
   Bamu 60 Zyyy 22 Latn 66 Zyyy 3 Latn 75 Sylo 30 Zyyy 10 Phag 40 Saur 60 Deva 20 Kali 2e Zyyy 1
   Kali 1 Rjng 30 Hang 20 Java 4f Zyyy 1 Java 10 Mymr 20 Cham 60 Mymr 20 Tavt 60 Mtei 21 Ethi 2f
   Latn 2b Zyyy 1 Latn 9 Grek 1 Latn 4 Zyyy 6 Cher 50 Mtei 40 Hang 4d00 Hani 200 Latn 13 Armn a
   Hebr 33 Arab 1ee Zyyy 2 Arab c0 Zinh 10 Zyyy 10 Zinh e Cyrl 2 Zyyy 40 Arab 8f Zyyy 22 Latn 1a
   Zyyy 6 Latn 1a Zyyy b Kana a Zyyy 1 Kana 2d Zyyy 2 Hang 40 Zyyy 20 Linb 100 Zyyy 40 Grek 50
   Zyyy 10 Grek 30 Zyyy 2d Zinh 83 Lyci 20 Cari 40 Zinh 1 Zyyy 1f Ital 30 Goth 20 Perm 30 Ugar 20
   Xpeo 60 Dsrt 50 Shaw 30 Osma 30 Osge 50 Elba 30 Aghb 40 Vith 50 Todr 40 Lina 180 Latn 80 Cprt
   40 Armi 20 Palm 20 Nbat 60 Hatr 20 Phnx 20 Lydi 60 Mero 20 Merc 60 Khar 60 Sarb 20 Narb 40 Mani
   40 Avst 40 Prti 20 Phli 20 Phlp 80 Orkh 80 Hung 80 Rohg 40 Gara 120 Arab 20 Yezi 42 Arab 3e
   Sogo 30 Sogd 40 Ougr 40 Chrs 30 Elym 20 Brah 80 Kthi 50 Sora 30 Cakm 50 Mahj 30 Shrd 61 Sinh 1f
   Khoj 80 Mult 30 Sind 50 Gran 3b Zinh 1 Gran 44 Tutg 80 Newa 80 Tirh 100 Sidd 80 Modi 60 Mong 20
   Takr 50 Mymr 30 Ahom 100 Dogr a0 Wara 60 Diak a0 Nand 60 Zanb 50 Soyo 60 Cans 10 Pauc 40 Deva
   c0 Sunu 40 Bhks 70 Marc 90 Gonm 60 Gong 180 Maka 20 Kawi b0 Lisu 10 Taml 40 Xsux f90 Cpmn 70
   Egyp 1400 Hluw 1d00 Gukh 700 Bamu 240 Mroo 30 Tnsa 60 Bass 30 Hmng 240 Krai 100 Medf c0 Plrd e0
   Tang 1 Nshu 1 Hani 2 Kits c Hani 10 Tang 1b00 Kits 200 Tang 22f0 Kana 11 Hira 11f Kana 12 Hira
   23 Kana 1b Nshu a90 Dupl a0 Zyyy 1260 Zinh 50 Zyyy 217 Zinh 3 Zyyy 11 Zinh 8 Zyyy 2 Zinh 7 Zyyy
   1e Zinh 4 Zyyy 52 Grek c0 Zyyy 540 Sgnw 700 Latn 100 Glag 30 Cyrl d0 Hmnp 190 Toto 30 Wcho 210
   Nagm 100 Onao 210 Ethi 20 Mend 100 Adlm 371 Zyyy 18f Arab 200 Zyyy 200 Hira 1 Zyyy dff Hani
   c0001 Zyyy ff Zinh 2ff00"

/-- The characters of a script. -/
def inScript (code : String) : Runs := (scripts.members (· == code)).diff scriptless

/-- The characters that are used with other scripts than their own: sets of scripts with the
characters that are used with just these. -/
def scriptExtensions : List (String × String) :=
  [("Avst Cari Copt Dupl Elba Geor Glag Gong Goth Grek Hani Latn Lydi Mahj Perm Shaw", "b7 1"),
   ("Beng Cyrl Deva Latn Lisu Thai Toto", "2bc 1"),
   ("Bopo Latn", "2c7 1 1 3 d 1"),
   ("Latn Lisu", "2cd 1"),
   ("Latn Thai", "2d7 1"),
   ("Cher Copt Cyrl Grek Latn Perm Sunu Tale", "300 1"),
   ("Cher Cyrl Grek Latn Osge Sunu Tale Todr", "301 1"),
   ("Cher Cyrl Latn Tfng", "302 1"),
   ("Glag Latn Sunu Syrc Thai", "303 1"),
   ("Aghb Cher Copt Cyrl Goth Grek Latn Osge Syrc Tfng Todr", "304 1"),
   ("Copt Elba Glag Goth Kana Latn", "305 1"),
   ("Cyrl Grek Latn Perm Tfng", "306 1"),
   ("Copt Dupl Hebr Latn Perm Syrc Tale Tfng Todr", "307 1"),
   ("Armn Cyrl Dupl Goth Grek Hebr Latn Perm Syrc Tale Tfng", "308 1"),
   ("Latn Tfng", "309 1"),
   ("Dupl Latn Syrc", "30a 1"),
   ("Cher Cyrl Latn Osge", "30b 1"),
   ("Cher Latn Tale", "30c 1"),
   ("Latn Sunu", "30d 1 2 1"),
   ("Ethi Latn", "30e 1"),
   ("Cyrl Latn Todr", "311 1"),
   ("Grek Latn Perm Todr", "313 1"),
   ("Cher Dupl Kana Latn Syrc Tfng", "323 1"),
   ("Cher Dupl Latn Syrc", "324 1"),
   ("Latn Syrc", "325 1 8 1"),
   ("Latn Sunu Syrc", "32d 1"),
   ("Cher Latn Syrc", "330 1"),
   ("Aghb Cher Goth Latn Sunu Syrc Thai", "331 1"),
   ("Grek", "342 1 2 1 1a7a 2"),
   ("Latn Osge", "358 1"),
   ("Aghb Latn Todr", "35e 1"),
   ("Latn", "363 d"),
   ("Copt Grek", "374 2"),
   ("Cyrl Perm", "483 1"),
   ("Cyrl Glag", "484 1 2 1 29bb 1 782b 1"),
   ("Cyrl Latn", "485 2"),
   ("Armn Geor Glag", "589 1"),
   ("Arab Gara Nkoo Rohg Syrc Thaa Yezi", "60c 1 e 1"),
   ("Arab Syrc Thaa", "61c 1"),
   ("Adlm Arab Gara Nkoo Rohg Syrc Thaa Yezi", "61f 1"),
   ("Adlm Arab Mand Mani Ougr Phlp Rohg Sogd Syrc", "640 1"),
   ("Arab Syrc", "64b b 1a 1"),
   ("Arab Thaa Yezi", "660 a"),
   ("Arab Rohg", "6d4 1"),
   ("Beng Deva Gran Gujr Guru Knda Latn Mlym Nand Newa Orya Shrd Taml Telu Tirh", "951 1"),
   ("Beng Deva Gran Gujr Guru Knda Latn Mlym Newa Orya Taml Telu Tirh", "952 1"),
   ("Beng Deva Dogr Gong Gonm Gran Gujr Guru Knda Mahj Mlym Nand Onao Orya Sind Sinh Sylo Takr
     Taml Telu Tirh", "964 1"),
   ("Beng Deva Dogr Gong Gonm Gran Gujr Gukh Guru Knda Limb Mahj Mlym Nand Onao Orya Sind Sinh
     Sylo Takr Taml Telu Tirh", "965 1"),
   ("Deva Dogr Kthi Mahj", "966 a"),
   ("Beng Cakm Sylo", "9e6 a"),
   ("Guru Mult", "a66 a"),
   ("Gujr Khoj", "ae6 a"),
   ("Gran Taml", "be6 e 1070d 1 1 1 37 2 c93 2 1 1"),
   ("Knda Nand Tutg", "ce6 a"),
   ("Cakm Mymr Tale", "1040 a"),
   ("Geor Glag Latn", "10fb 1"),
   ("Runr", "16eb 3"),
   ("Buhd Hano Tagb Tglg", "1735 2"),
   ("Mong Phag", "1802 2 1 1"),
   ("Beng Deva Gran Knda", "1cd0 1 1 1"),
   ("Deva", "1cd1 1 2 1 6 1 2 2 3 6 3 1 1 4"),
   ("Deva Gran Knda", "1cd3 1"),
   ("Beng Deva Newa Telu Tirh", "1cd5 1"),
   ("Beng Deva Telu", "1cd6 1"),
   ("Deva Newa Shrd", "1cd7 1"),
   ("Beng Deva Newa Telu", "1cd8 1"),
   ("Deva Shrd", "1cd9 1 2 2 2 1"),
   ("Deva Knda Mlym Orya Taml Telu", "1cda 1"),
   ("Beng Deva", "1ce1 1 13 2"),
   ("Deva Newa Tirh", "1ce2 1"),
   ("Deva Nand Newa", "1ce9 1"),
   ("Beng Deva Shrd", "1cea 1"),
   ("Deva Newa", "1ceb 1"),
   ("Beng Deva Newa Shrd", "1ced 1"),
   ("Beng Deva Gran Knda Mlym Nand Orya Sinh Telu Tirh Tutg", "1cf2 1"),
   ("Deva Gran", "1cf3 1 4 2"),
   ("Deva Gran Knda Tutg", "1cf4 1"),
   ("Beng", "1cf7 1"),
   ("Nand", "1cfa 1"),
   ("Cyrl Latn Syrc", "1df8 1"),
   ("Syrc", "1dfa 1"),
   ("Latn Mong Phag", "202f 1"),
   ("Adlm Arab", "204f 1"),
   ("Cari Geor Glag Hung Lyci Orkh", "205a 1"),
   ("Cari Grek Hung Mero", "205d 1"),
   ("Deva Gran Latn", "20f0 1"),
   ("Copt Latn", "2e17 1"),
   ("Avst Orkh", "2e30 1"),
   ("Avst Cari Geor Hung Kthi Lydi Samr", "2e31 1"),
   ("Dupl", "2e3c 1 18e63 4"),
   ("Adlm Arab Hung", "2e41 1"),
   ("Hani Tang", "2ff0 10 1ef 1"),
   ("Bopo Hang Hani Hira Kana Mong Yiii", "3001 1"),
   ("Bopo Hang Hani Hira Kana Mong Phag Yiii", "3002 1"),
   ("Bopo Hang Hani Hira Kana", "3003 1 f 1 8 4 10 1 6 1 ce0d 2"),
   ("Hani", "3006 1 37 2 150 10 20 26 3a 28 38 31 f c 33 1 58 19 a 5 60 1f 19f61 12 1ede 2"),
   ("Bopo Hang Hani Hira Kana Mong Tibt Yiii", "3008 2"),
   ("Bopo Hang Hani Hira Kana Lisu Mong Tibt Yiii", "300a 2"),
   ("Bopo Hang Hani Hira Kana Yiii", "300c 6 2 8 df 1 ce65 5"),
   ("Bopo Hani", "302a 4"),
   ("Hira Kana", "3031 5 63 4 3 1 5b 1 ce73 1 2d 2"),
   ("Hani Hira Kana", "303c 2"),
   ("Hani Latn", "a700 8"),
   ("Deva Dogr Gujr Guru Khoj Knda Kthi Mahj Mlym Modi Nand Shrd Sind Takr Tirh Tutg", "a830 3"),
   ("Deva Dogr Gujr Guru Khoj Knda Kthi Mahj Modi Nand Shrd Sind Takr Tirh Tutg", "a833 3"),
   ("Deva Dogr Gujr Guru Khoj Kthi Mahj Modi Sind Takr Tirh", "a836 2 1 1"),
   ("Deva Dogr Gujr Guru Khoj Kthi Mahj Modi Shrd Sind Takr Tirh", "a838 1"),
   ("Beng Deva Tutg", "a8f1 1"),
   ("Deva Taml", "a8f3 1"),
   ("Kali Latn Mymr", "a92e 1"),
   ("Bugi Java", "a9cf 1"),
   ("Arab Nkoo", "fd3e 2"),
   ("Arab Thaa", "fdf2 1 a 1"),
   ("Cpmn Cprt Linb", "10100 2"),
   ("Cprt Linb", "10102 1 34 9"),
   ("Cprt Lina Linb", "10107 2d"),
   ("Arab Copt", "102e0 1c"),
   ("Mani Ougr", "10af2 1")]

/-- The characters that are used with a script. -/
def usedWithScript (code : String) : Runs :=
  let extended := scriptExtensions.map fun (codes, table) =>
    ((Text.tableWords codes).contains code.toList, Runs.ofTable table)
  ((inScript code).diff (Runs.unions (extended.map (·.2)))).union
    (Runs.unions ((extended.filter (·.1)).map (·.2)))

/-! ### Names -/

/-- The codes of the scripts, each with the name of the script. -/
def scriptNames : List (List Char) := Text.tableWords
  "Adlm Adlam Aghb Caucasian_Albanian Ahom Ahom Arab Arabic Armi Imperial_Aramaic Armn Armenian
   Avst Avestan Bali Balinese Bamu Bamum Bass Bassa_Vah Batk Batak Beng Bengali Bhks Bhaiksuki
   Bopo Bopomofo Brah Brahmi Brai Braille Bugi Buginese Buhd Buhid Cakm Chakma Cans
   Canadian_Aboriginal Cari Carian Cham Cham Cher Cherokee Chrs Chorasmian Copt Coptic Cpmn
   Cypro_Minoan Cprt Cypriot Cyrl Cyrillic Deva Devanagari Diak Dives_Akuru Dogr Dogra Dsrt
   Deseret Dupl Duployan Egyp Egyptian_Hieroglyphs Elba Elbasan Elym Elymaic Ethi Ethiopic Gara
   Garay Geor Georgian Glag Glagolitic Gong Gunjala_Gondi Gonm Masaram_Gondi Goth Gothic Gran
   Grantha Grek Greek Gujr Gujarati Gukh Gurung_Khema Guru Gurmukhi Hang Hangul Hani Han Hano
   Hanunoo Hatr Hatran Hebr Hebrew Hira Hiragana Hluw Anatolian_Hieroglyphs Hmng Pahawh_Hmong Hmnp
   Nyiakeng_Puachue_Hmong Hung Old_Hungarian Ital Old_Italic Java Javanese Kali Kayah_Li Kana
   Katakana Kawi Kawi Khar Kharoshthi Khmr Khmer Khoj Khojki Kits Khitan_Small_Script Knda Kannada
   Krai Kirat_Rai Kthi Kaithi Lana Tai_Tham Laoo Lao Latn Latin Lepc Lepcha Limb Limbu Lina
   Linear_A Linb Linear_B Lisu Lisu Lyci Lycian Lydi Lydian Mahj Mahajani Maka Makasar Mand
   Mandaic Mani Manichaean Marc Marchen Medf Medefaidrin Mend Mende_Kikakui Merc Meroitic_Cursive
   Mero Meroitic_Hieroglyphs Mlym Malayalam Modi Modi Mong Mongolian Mroo Mro Mtei Meetei_Mayek
   Mult Multani Mymr Myanmar Nagm Nag_Mundari Nand Nandinagari Narb Old_North_Arabian Nbat
   Nabataean Newa Newa Nkoo Nko Nshu Nushu Ogam Ogham Olck Ol_Chiki Onao Ol_Onal Orkh Old_Turkic
   Orya Oriya Osge Osage Osma Osmanya Ougr Old_Uyghur Palm Palmyrene Pauc Pau_Cin_Hau Perm
   Old_Permic Phag Phags_Pa Phli Inscriptional_Pahlavi Phlp Psalter_Pahlavi Phnx Phoenician Plrd
   Miao Prti Inscriptional_Parthian Rjng Rejang Rohg Hanifi_Rohingya Runr Runic Samr Samaritan
   Sarb Old_South_Arabian Saur Saurashtra Sgnw SignWriting Shaw Shavian Shrd Sharada Sidd Siddham
   Sind Khudawadi Sinh Sinhala Sogd Sogdian Sogo Old_Sogdian Sora Sora_Sompeng Soyo Soyombo Sund
   Sundanese Sunu Sunuwar Sylo Syloti_Nagri Syrc Syriac Tagb Tagbanwa Takr Takri Tale Tai_Le Talu
   New_Tai_Lue Taml Tamil Tang Tangut Tavt Tai_Viet Telu Telugu Tfng Tifinagh Tglg Tagalog Thaa
   Thaana Thai Thai Tibt Tibetan Tirh Tirhuta Tnsa Tangsa Todr Todhri Toto Toto Tutg Tulu_Tigalari
   Ugar Ugaritic Vaii Vai Vith Vithkuqi Wara Warang_Citi Wcho Wancho Xpeo Old_Persian Xsux
   Cuneiform Yezi Yezidi Yiii Yi Zanb Zanabazar_Square Zinh Inherited Zyyy Common"

/-- Further codes that two scripts go by. -/
def scriptAliases : List (String × String) := [("Qaac", "Copt"), ("Qaai", "Zinh")]

end MarkupFeed.Unicode
