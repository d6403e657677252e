/-!
The property Script as runs of code points from zero: the length of each run in hexadecimal and
the short name of its value. `scriptNames` pairs the short names with the long ones.
-/

namespace AccessGate.Unicode

def scriptRuns : List String :=
  ["41Zyyy1aLatn6Zyyy1aLatn2fZyyy1LatnfZyyy1Latn5Zyyy17Latn1Zyyy1fLatn1Zyyy1c1Latn27Zyyy5Lat",
   "n5Zyyy2Bopo14Zyyy70Zinh4Grek1Zyyy3Grek2Zzzz4Grek1Zyyy1Grek4Zzzz1Grek1Zyyy1Grek1Zyyy3Grek",
   "1Zzzz1Grek1Zzzz14Grek1Zzzz3fGrekeCopt10Grek85Cyrl2Zinha9Cyrl1Zzzz26Armn2Zzzz32Armn2Zzzz3",
   "Armn1Zzzz37Hebr8Zzzz1bHebr4Zzzz6HebrbZzzz5Arab1Zyyy6Arab1ZyyyeArab1Zyyy3Arab1Zyyy20Arab1",
   "ZyyyaArabbZinh1aArab1Zinh6cArab1Zyyy22ArabeSyrc1Zzzz3cSyrc2Zzzz3Syrc30Arab32ThaaeZzzz3bN",
   "koo2Zzzz3Nkoo2eSamr2ZzzzfSamr1Zzzz1cMand2Zzzz1Mand1ZzzzbSyrc5Zzzz22Arab5Zzzz4bArab1Zyyy1",
   "dArab51Deva4ZinhfDeva2Zyyy1aDeva4Beng1Zzzz8Beng2Zzzz2Beng2Zzzz16Beng1Zzzz7Beng1Zzzz1Beng",
   "3Zzzz4Beng2Zzzz9Beng2Zzzz2Beng2Zzzz4Beng8Zzzz1Beng4Zzzz2Beng1Zzzz5Beng2Zzzz19Beng2Zzzz3G",
   "uru1Zzzz6Guru4Zzzz2Guru2Zzzz16Guru1Zzzz7Guru1Zzzz2Guru1Zzzz2Guru1Zzzz2Guru2Zzzz1Guru1Zzz",
   "z5Guru4Zzzz2Guru2Zzzz3Guru3Zzzz1Guru7Zzzz4Guru1Zzzz1Guru7Zzzz11GuruaZzzz3Gujr1Zzzz9Gujr1",
   "Zzzz3Gujr1Zzzz16Gujr1Zzzz7Gujr1Zzzz2Gujr1Zzzz5Gujr2ZzzzaGujr1Zzzz3Gujr1Zzzz3Gujr2Zzzz1Gu",
   "jrfZzzz4Gujr2ZzzzcGujr7Zzzz7Gujr1Zzzz3Orya1Zzzz8Orya2Zzzz2Orya2Zzzz16Orya1Zzzz7Orya1Zzzz",
   "2Orya1Zzzz5Orya2Zzzz9Orya2Zzzz2Orya2Zzzz3Orya7Zzzz3Orya4Zzzz2Orya1Zzzz5Orya2Zzzz12OryaaZ",
   "zzz2Taml1Zzzz6Taml3Zzzz3Taml1Zzzz4Taml3Zzzz2Taml1Zzzz1Taml1Zzzz2Taml3Zzzz2Taml3Zzzz3Taml",
   "3ZzzzcTaml4Zzzz5Taml3Zzzz3Taml1Zzzz4Taml2Zzzz1Taml6Zzzz1TamleZzzz15Taml5ZzzzdTelu1Zzzz3T",
   "elu1Zzzz17Telu1Zzzz10Telu2Zzzz9Telu1Zzzz3Telu1Zzzz4Telu7Zzzz2Telu1Zzzz3Telu1Zzzz2Telu2Zz",
   "zz4Telu2ZzzzaTelu7Zzzz9TeludKnda1Zzzz3Knda1Zzzz17Knda1ZzzzaKnda1Zzzz5Knda2Zzzz9Knda1Zzzz",
   "3Knda1Zzzz4Knda7Zzzz2Knda5Zzzz3Knda1Zzzz4Knda2ZzzzaKnda1Zzzz3KndacZzzzdMlym1Zzzz3Mlym1Zz",
   "zz33Mlym1Zzzz3Mlym1Zzzz6Mlym4Zzzz10Mlym2Zzzz1aMlym1Zzzz3Sinh1Zzzz12Sinh3Zzzz18Sinh1Zzzz9",
   "Sinh1Zzzz1Sinh2Zzzz7Sinh3Zzzz1Sinh4Zzzz6Sinh1Zzzz1Sinh1Zzzz8Sinh6ZzzzaSinh2Zzzz3SinhcZzz",
   "z3aThai4Zzzz1Zyyy1cThai25Zzzz2Laoo1Zzzz1Laoo1Zzzz5Laoo1Zzzz18Laoo1Zzzz1Laoo1Zzzz17Laoo2Z",
   "zzz5Laoo1Zzzz1Laoo1Zzzz7Laoo1ZzzzaLaoo2Zzzz4Laoo20Zzzz48Tibt1Zzzz24Tibt4Zzzz27Tibt1Zzzz2",
   "4Tibt1ZzzzfTibt1Zzzz7Tibt4Zyyy2Tibt25Zzzza0Mymr26Geor1Zzzz1Geor5Zzzz1Geor2Zzzz2bGeor1Zyy",
   "y4Geor100Hang49Ethi1Zzzz4Ethi2Zzzz7Ethi1Zzzz1Ethi1Zzzz4Ethi2Zzzz29Ethi1Zzzz4Ethi2Zzzz21E",
   "thi1Zzzz4Ethi2Zzzz7Ethi1Zzzz1Ethi1Zzzz4Ethi2ZzzzfEthi1Zzzz39Ethi1Zzzz4Ethi2Zzzz43Ethi2Zz",
   "zz20Ethi3Zzzz1aEthi6Zzzz56Cher2Zzzz6Cher2Zzzz280Cans1dOgam3Zzzz4bRunr3ZyyybRunr7Zzzz16Tg",
   "lg9Zzzz1Tglg15Hano2Zyyy9Zzzz14BuhdcZzzzdTagb1Zzzz3Tagb1Zzzz2TagbcZzzz5eKhmr2ZzzzaKhmr6Zz",
   "zzaKhmr6Zzzz2Mong2Zyyy1Mong1Zyyy14Mong6Zzzz59Mong7Zzzz2bMong5Zzzz46CansaZzzz1fLimb1Zzzzc",
   "Limb4ZzzzcLimb4Zzzz1Limb3ZzzzcLimb1eTale2Zzzz5TalebZzzz2cTalu4Zzzz1aTalu6ZzzzbTalu3Zzzz2",
   "Talu20Khmr1cBugi2Zzzz2Bugi3fLana1Zzzz1dLana2ZzzzbLana6ZzzzaLana6ZzzzeLana2Zzzz2eZinh2Zzz",
   "zcZinh14Zzzz4dBali1Zzzz32Bali40Sund34Batk8Zzzz4Batk38Lepc3ZzzzfLepc3Zzzz3Lepc30OlckbCyrl",
   "5Zzzz2bGeor2Zzzz3Geor8Sund8Zzzz3Zinh1ZyyydZinh1Zyyy7Zinh4Zyyy1Zinh6Zyyy1Zinh3Zyyy2Zinh1Z",
   "yyy5Zzzz26Latn5Grek1Cyrl31Latn5Grek4Latn5GrekdLatn1Cyrl46Latn1Grek40Zinh100Latn16Grek2Zz",
   "zz6Grek2Zzzz26Grek2Zzzz6Grek2Zzzz8Grek1Zzzz1Grek1Zzzz1Grek1Zzzz1Grek1Zzzz1fGrek2Zzzz35Gr",
   "ek1ZzzzfGrek1ZzzzeGrek2Zzzz6Grek1Zzzz13Grek2Zzzz3Grek1Zzzz9Grek1ZzzzcZyyy2Zinh57Zyyy1Zzz",
   "zbZyyy1Latn2ZzzzbZyyy1LatnfZyyy1ZzzzdLatn3Zzzz22ZyyyeZzzz21ZinhfZzzz26Zyyy1Grek3Zyyy2Lat",
   "n6Zyyy1Latn1bZyyy1Latn11Zyyy29Latn3Zyyy4Zzzz29aZyyy16ZzzzbZyyy15Zzzz3a0Zyyy100Brai274Zyy",
   "y2Zzzz8aZyyy60Glag20Latn74Copt5Zzzz7Copt26Geor1Zzzz1Geor5Zzzz1Geor2Zzzz38Tfng7Zzzz2Tfnge",
   "Zzzz1Tfng17Ethi9Zzzz7Ethi1Zzzz7Ethi1Zzzz7Ethi1Zzzz7Ethi1Zzzz7Ethi1Zzzz7Ethi1Zzzz7Ethi1Zz",
   "zz7Ethi1Zzzz20Cyrl5eZyyy22Zzzz1aHani1Zzzz59HanicZzzzd6Hani1aZzzz15Zyyy1Hani1Zyyy1Hani19Z",
   "yyy9Hani4Zinh2Hang8Zyyy4Hani4Zyyy1Zzzz56Hira2Zzzz2Zinh2Zyyy3Hira1Zyyy5aKana2Zyyy3Kana5Zz",
   "zz2bBopo1Zzzz5eHang1Zzzz10Zyyy20Bopo26Zyyy9Zzzz1Zyyy10Kana1fHang1Zzzz40Zyyy1fHang51Zyyy2",
   "fKana1Zyyy58Kanaa8Zyyy19c0Hani40Zyyy5200Hani48dYiii3Zzzz37Yiii9Zzzz30Lisu12cVaii14Zzzz60",
   "Cyrl58Bamu8Zzzz22Zyyy66Latn3Zyyy52Latn14ZzzzfLatn2dSylo3ZzzzaZyyy6Zzzz38Phag8Zzzz46Saur8",
   "ZzzzcSaur6Zzzz20Deva2eKali1Zyyy1Kali24RjngbZzzz1Rjng1dHang3Zzzz4eJava1Zzzz1ZyyyaJava4Zzz",
   "z2Java1fMymr1Zzzz37Cham9ZzzzeCham2ZzzzaCham2Zzzz4Cham20Mymr43Tavt18Zzzz5Tavt17MteiaZzzz6",
   "Ethi2Zzzz6Ethi2Zzzz6Ethi9Zzzz7Ethi1Zzzz7Ethi1Zzzz2bLatn1Zyyy9Latn1Grek4Latn2Zyyy4Zzzz50C",
   "her2eMtei2ZzzzaMtei6Zzzz2ba4HangcZzzz17Hang4Zzzz31Hang2104Zzzz16eHani2Zzzz6aHani26Zzzz7L",
   "atncZzzz5Armn5Zzzz1aHebr1Zzzz5Hebr1Zzzz1Hebr1Zzzz2Hebr1Zzzz2Hebr1ZzzzaHebr1eeArab2Zyyy90",
   "Arab20Zzzz10Arab10ZinhaZyyy6ZzzzeZinh2Cyrl23Zyyy1Zzzz13Zyyy1Zzzz4Zyyy4Zzzz5Arab1Zzzz87Ar",
   "ab2Zzzz1Zyyy1Zzzz20Zyyy1aLatn6Zyyy1aLatnbZyyyaKana1Zyyy2dKana2Zyyy1fHang3Zzzz6Hang2Zzzz6",
   "Hang2Zzzz6Hang2Zzzz3Hang3Zzzz7Zyyy1Zzzz7ZyyyaZzzz5Zyyy2ZzzzcLinb1Zzzz1aLinb1Zzzz13Linb1Z",
   "zzz2Linb1ZzzzfLinb2ZzzzeLinb22Zzzz7bLinb5Zzzz3Zyyy4Zzzz2dZyyy3Zzzz9Zyyy4fGrek1ZzzzdZyyy3",
   "Zzzz1Grek2fZzzz2dZyyy1Zinh82Zzzz1dLyci3Zzzz31CarifZzzz1Zinh1bZyyy4Zzzz24Ital9Zzzz3Ital1b",
   "Goth5Zzzz2bPerm5Zzzz1eUgar1Zzzz1Ugar24Xpeo4ZzzzeXpeo2aZzzz50Dsrt30Shaw1eOsma2ZzzzaOsma6Z",
   "zzz24Osge4Zzzz24Osge4Zzzz28Elba8Zzzz34AghbbZzzz1AghbbVith1ZzzzfVith1Zzzz7Vith1Zzzz2Vith1",
   "ZzzzbVith1ZzzzfVith1Zzzz7Vith1Zzzz2Vith43Zzzz137Lina9Zzzz16LinaaZzzz8Lina18Zzzz6Latn1Zzz",
   "z2aLatn1Zzzz9Latn45Zzzz6Cprt2Zzzz1Cprt1Zzzz2cCprt1Zzzz2Cprt3Zzzz1Cprt2Zzzz1Cprt16Armi1Zz",
   "zz9Armi20Palm1fNbat8Zzzz9Nbat30Zzzz13Hatr1Zzzz2Hatr5Zzzz5Hatr1cPhnx3Zzzz1Phnx1aLydi5Zzzz",
   "1Lydi40Zzzz20Mero18Merc4Zzzz14Merc2Zzzz2eMerc4Khar1Zzzz2Khar5Zzzz8Khar1Zzzz3Khar1Zzzz1dK",
   "har2Zzzz3Khar4ZzzzaKhar7Zzzz9Khar7Zzzz20Sarb20Narb20Zzzz27Mani4ZzzzcMani9Zzzz36Avst3Zzzz",
   "7Avst16Prti2Zzzz8Prti13Phli5Zzzz8Phli12Phlp7Zzzz4PhlpcZzzz7Phlp50Zzzz49Orkh37Zzzz33Hungd",
   "Zzzz33Hung7Zzzz6Hung28Rohg8ZzzzaRohg126Zzzz1fArab1Zzzz2aYezi1Zzzz3Yezi2Zzzz2Yezi10Zzzz6A",
   "rab8Zzzz9Arab21Zzzz6Arab28Sogo8Zzzz2aSogd16Zzzz1aOugr26Zzzz1cChrs14Zzzz17Elym9Zzzz4eBrah",
   "4Zzzz24Brah9Zzzz1Brah43KthiaZzzz1Kthi2Zzzz19Sora7ZzzzaSora6Zzzz35Cakm1Zzzz12Cakm8Zzzz27M",
   "ahj9Zzzz60Shrd1Zzzz14SinhbZzzz12Khoj1Zzzz2fKhoj3eZzzz7Mult1Zzzz1Mult1Zzzz4Mult1ZzzzfMult",
   "1ZzzzbMult6Zzzz3bSind5ZzzzaSind6Zzzz4Gran1Zzzz8Gran2Zzzz2Gran2Zzzz16Gran1Zzzz7Gran1Zzzz2",
   "Gran1Zzzz5Gran1Zzzz1Zinh9Gran2Zzzz2Gran2Zzzz3Gran2Zzzz1Gran6Zzzz1Gran5Zzzz7Gran2Zzzz7Gra",
   "n3Zzzz5Gran8bZzzz5cNewa1Zzzz5Newa1eZzzz48Tirh8ZzzzaTirha6Zzzz36Sidd2Zzzz26Sidd22Zzzz45Mo",
   "dibZzzzaModi6ZzzzdMong13Zzzz3aTakr6ZzzzaTakr6Zzzz14Mymr1cZzzz1bAhom2ZzzzfAhom4Zzzz17Ahom",
   "b9Zzzz3cDogr64Zzzz53WaracZzzz1Wara7Diak2Zzzz1Diak2Zzzz8Diak1Zzzz2Diak1Zzzz1eDiak1Zzzz2Di",
   "ak2ZzzzcDiak9ZzzzaDiak46Zzzz8Nand2Zzzz2eNand2ZzzzbNand1bZzzz48Zanb8Zzzz53SoyodZzzz10Cans",
   "39Pauc7ZzzzaDeva56Zzzz8Shrd98Zzzz9Bhks1Zzzz2dBhks1ZzzzeBhksaZzzz1dBhks3Zzzz20Marc2Zzzz16",
   "Marc1ZzzzeMarc49Zzzz7Gonm1Zzzz2Gonm1Zzzz2cGonm3Zzzz1Gonm1Zzzz2Gonm1Zzzz9Gonm8ZzzzaGonm6Z",
   "zzz6Gong1Zzzz2Gong1Zzzz25Gong1Zzzz2Gong1Zzzz6Gong7ZzzzaGong136Zzzz19Maka7Zzzz11Kawi1Zzzz",
   "29Kawi3Zzzz1dKawi55Zzzz1LisufZzzz32TamldZzzz1Taml39aXsux66Zzzz6fXsux1Zzzz5XsuxbZzzzc4Xsu",
   "xa4cZzzz63CpmndZzzz456EgypaZzzzf9bEgyp5Zzzz247Hluw21b9Zzzz239Bamu7Zzzz1fMroo1ZzzzaMroo4Z",
   "zzz2Mroo4fTnsa1ZzzzaTnsa6Zzzz1eBass2Zzzz6BassaZzzz46HmngaZzzzaHmng1Zzzz7Hmng1Zzzz15Hmng5",
   "Zzzz13Hmng2b0Zzzz5bMedf65Zzzz4bPlrd4Zzzz39Plrd7Zzzz11Plrd40Zzzz1Tang1Nshu2Hani1KitsbZzzz",
   "7Hani9Zzzz1b00Tang1d6Kits29Zzzz1Kits1fTang61Zzzz73Tang21fdZzzz4Kana1Zzzz7Kana1Zzzz2Kana1",
   "Zzzz1Kana11fHira3KanafZzzz1Hira1dZzzz3Hira2Zzzz1KanaeZzzz4Kana8Zzzz18cNshu904Zzzz6bDupl5",
   "ZzzzdDupl3Zzzz9Dupl7ZzzzaDupl2Zzzz4Dupl4Zyyyf5cZzzzfdZyyy3Zzzz1b4Zyyy6Zzzz17ZyyyfZzzz11Z",
   "yyyfZzzz2eZinh2Zzzz17Zinh9Zzzz74Zyyy3cZzzzf6ZyyyaZzzz27Zyyy2Zzzz3eZyyy3Zinh11Zyyy8Zinh2Z",
   "yyy7Zinh1eZyyy4Zinh3dZyyy15Zzzz46Grek7aZzzz14ZyyycZzzz14ZyyycZzzz57Zyyy9Zzzz19Zyyy87Zzzz",
   "55Zyyy1Zzzz47Zyyy1Zzzz2Zyyy2Zzzz1Zyyy2Zzzz2Zyyy2Zzzz4Zyyy1ZzzzcZyyy1Zzzz1Zyyy1Zzzz7Zyyy1",
   "Zzzz41Zyyy1Zzzz4Zyyy2Zzzz8Zyyy1Zzzz7Zyyy1Zzzz1cZyyy1Zzzz4Zyyy1Zzzz5Zyyy1Zzzz1Zyyy3Zzzz7Z",
   "yyy1Zzzz154Zyyy2Zzzz124Zyyy2Zzzz32Zyyy28cSgnwfZzzz5Sgnw1ZzzzfSgnw450Zzzz1fLatn6Zzzz6Latn",
   "d5Zzzz7Glag1Zzzz11Glag2Zzzz7Glag1Zzzz2Glag1Zzzz5Glag5Zzzz3eCyrl21Zzzz1Cyrl70Zzzz2dHmnp3Z",
   "zzzeHmnp2ZzzzaHmnp4Zzzz2Hmnp140Zzzz1fToto11Zzzz3aWcho5Zzzz1Wcho1d0Zzzz2aNagm2e6Zzzz7Ethi",
   "1Zzzz4Ethi1Zzzz2Ethi1ZzzzfEthi1Zzzzc5Mend2Zzzz10Mend29Zzzz4cAdlm4ZzzzaAdlm4Zzzz2Adlm311Z",
   "zzz44Zyyy4cZzzz3dZyyyc2Zzzz4Arab1Zzzz1bArab1Zzzz2Arab1Zzzz1Arab2Zzzz1Arab1ZzzzaArab1Zzzz",
   "4Arab1Zzzz1Arab1Zzzz1Arab6Zzzz1Arab4Zzzz1Arab1Zzzz1Arab1Zzzz1Arab1Zzzz3Arab1Zzzz2Arab1Zz",
   "zz1Arab2Zzzz1Arab1Zzzz1Arab1Zzzz1Arab1Zzzz1Arab1Zzzz1Arab1Zzzz2Arab1Zzzz1Arab2Zzzz4Arab1",
   "Zzzz7Arab1Zzzz4Arab1Zzzz4Arab1Zzzz1Arab1ZzzzaArab1Zzzz11Arab5Zzzz3Arab1Zzzz5Arab1Zzzz11A",
   "rab34Zzzz2Arab10eZzzz2cZyyy4Zzzz64ZyyycZzzzfZyyy2ZzzzfZyyy1ZzzzfZyyy1Zzzz25ZyyyaZzzzaeZy",
   "yy38Zzzz1aZyyy1Hira2ZyyydZzzz2cZyyy4Zzzz9Zyyy7Zzzz2ZyyyeZzzz6Zyyy9aZzzz3d9Zyyy3Zzzz11Zyy",
   "y3ZzzzdZyyy3ZzzzdaZyyy6ZzzzcZyyy4Zzzz1ZyyyfZzzzcZyyy4Zzzz38Zyyy8ZzzzaZyyy6Zzzz28Zyyy8Zzz",
   "z1eZyyy2ZzzzcZyyy4Zzzz2ZyyyeZzzz9Zyyy27Zzzz158Zyyy8ZzzzeZyyy2ZzzzdZyyy3ZzzzbZyyy3Zzzz39Z",
   "yyy1Zzzz1Zyyy4Zzzz10Zyyy2ZzzzcZyyy4ZzzzaZyyy7Zzzz93Zyyy1Zzzz67Zyyy405Zzzza6e0Hani20Zzzz1",
   "11eHani2Zzzz168eHani2Zzzz1d31HanifZzzz26eHani9a2Zzzz21eHani5e2Zzzz134bHani5Zzzz212aHania",
   "cb87Zzzz1Zyyy1eZzzz60Zyyy80Zzzzf0Zinh2fe10Zzzz"]

def scriptNames : List (String × String) :=
  [("Adlm", "Adlam"),
   ("Aghb", "Caucasian_Albanian"),
   ("Ahom", "Ahom"),
   ("Arab", "Arabic"),
   ("Armi", "Imperial_Aramaic"),
   ("Armn", "Armenian"),
   ("Avst", "Avestan"),
   ("Bali", "Balinese"),
   ("Bamu", "Bamum"),
   ("Bass", "Bassa_Vah"),
   ("Batk", "Batak"),
   ("Beng", "Bengali"),
   ("Bhks", "Bhaiksuki"),
   ("Bopo", "Bopomofo"),
   ("Brah", "Brahmi"),
   ("Brai", "Braille"),
   ("Bugi", "Buginese"),
   ("Buhd", "Buhid"),
   ("Cakm", "Chakma"),
   ("Cans", "Canadian_Aboriginal"),
   ("Cari", "Carian"),
   ("Cham", "Cham"),
   ("Cher", "Cherokee"),
   ("Chrs", "Chorasmian"),
   ("Copt", "Coptic"),
   ("Cpmn", "Cypro_Minoan"),
   ("Cprt", "Cypriot"),
   ("Cyrl", "Cyrillic"),
   ("Deva", "Devanagari"),
   ("Diak", "Dives_Akuru"),
   ("Dogr", "Dogra"),
   ("Dsrt", "Deseret"),
   ("Dupl", "Duployan"),
   ("Egyp", "Egyptian_Hieroglyphs"),
   ("Elba", "Elbasan"),
   ("Elym", "Elymaic"),
   ("Ethi", "Ethiopic"),
   ("Geor", "Georgian"),
   ("Glag", "Glagolitic"),
   ("Gong", "Gunjala_Gondi"),
   ("Gonm", "Masaram_Gondi"),
   ("Goth", "Gothic"),
   ("Gran", "Grantha"),
   ("Grek", "Greek"),
   ("Gujr", "Gujarati"),
   ("Guru", "Gurmukhi"),
   ("Hang", "Hangul"),
   ("Hani", "Han"),
   ("Hano", "Hanunoo"),
   ("Hatr", "Hatran"),
   ("Hebr", "Hebrew"),
   ("Hira", "Hiragana"),
   ("Hluw", "Anatolian_Hieroglyphs"),
   ("Hmng", "Pahawh_Hmong"),
   ("Hmnp", "Nyiakeng_Puachue_Hmong"),
   ("Hung", "Old_Hungarian"),
   ("Ital", "Old_Italic"),
   ("Java", "Javanese"),
   ("Kali", "Kayah_Li"),
   ("Kana", "Katakana"),
   ("Kawi", "Kawi"),
   ("Khar", "Kharoshthi"),
   ("Khmr", "Khmer"),
   ("Khoj", "Khojki"),
   ("Kits", "Khitan_Small_Script"),
   ("Knda", "Kannada"),
   ("Kthi", "Kaithi"),
   ("Lana", "Tai_Tham"),
   ("Laoo", "Lao"),
   ("Latn", "Latin"),
   ("Lepc", "Lepcha"),
   ("Limb", "Limbu"),
   ("Lina", "Linear_A"),
   ("Linb", "Linear_B"),
   ("Lisu", "Lisu"),
   ("Lyci", "Lycian"),
   ("Lydi", "Lydian"),
   ("Mahj", "Mahajani"),
   ("Maka", "Makasar"),
   ("Mand", "Mandaic"),
   ("Mani", "Manichaean"),
   ("Marc", "Marchen"),
   ("Medf", "Medefaidrin"),
   ("Mend", "Mende_Kikakui"),
   ("Merc", "Meroitic_Cursive"),
   ("Mero", "Meroitic_Hieroglyphs"),
   ("Mlym", "Malayalam"),
   ("Modi", "Modi"),
   ("Mong", "Mongolian"),
   ("Mroo", "Mro"),
   ("Mtei", "Meetei_Mayek"),
   ("Mult", "Multani"),
   ("Mymr", "Myanmar"),
   ("Nagm", "Nag_Mundari"),
   ("Nand", "Nandinagari"),
   ("Narb", "Old_North_Arabian"),
   ("Nbat", "Nabataean"),
   ("Newa", "Newa"),
   ("Nkoo", "Nko"),
   ("Nshu", "Nushu"),
   ("Ogam", "Ogham"),
   ("Olck", "Ol_Chiki"),
   ("Orkh", "Old_Turkic"),
   ("Orya", "Oriya"),
   ("Osge", "Osage"),
   ("Osma", "Osmanya"),
   ("Ougr", "Old_Uyghur"),
   ("Palm", "Palmyrene"),
   ("Pauc", "Pau_Cin_Hau"),
   ("Perm", "Old_Permic"),
   ("Phag", "Phags_Pa"),
   ("Phli", "Inscriptional_Pahlavi"),
   ("Phlp", "Psalter_Pahlavi"),
   ("Phnx", "Phoenician"),
   ("Plrd", "Miao"),
   ("Prti", "Inscriptional_Parthian"),
   ("Rjng", "Rejang"),
   ("Rohg", "Hanifi_Rohingya"),
   ("Runr", "Runic"),
   ("Samr", "Samaritan"),
   ("Sarb", "Old_South_Arabian"),
   ("Saur", "Saurashtra"),
   ("Sgnw", "SignWriting"),
   ("Shaw", "Shavian"),
   ("Shrd", "Sharada"),
   ("Sidd", "Siddham"),
   ("Sind", "Khudawadi"),
   ("Sinh", "Sinhala"),
   ("Sogd", "Sogdian"),
   ("Sogo", "Old_Sogdian"),
   ("Sora", "Sora_Sompeng"),
   ("Soyo", "Soyombo"),
   ("Sund", "Sundanese"),
   ("Sylo", "Syloti_Nagri"),
   ("Syrc", "Syriac"),
   ("Tagb", "Tagbanwa"),
   ("Takr", "Takri"),
   ("Tale", "Tai_Le"),
   ("Talu", "New_Tai_Lue"),
   ("Taml", "Tamil"),
   ("Tang", "Tangut"),
   ("Tavt", "Tai_Viet"),
   ("Telu", "Telugu"),
   ("Tfng", "Tifinagh"),
   ("Tglg", "Tagalog"),
   ("Thaa", "Thaana"),
   ("Thai", "Thai"),
   ("Tibt", "Tibetan"),
   ("Tirh", "Tirhuta"),
   ("Tnsa", "Tangsa"),
   ("Toto", "Toto"),
   ("Ugar", "Ugaritic"),
   ("Vaii", "Vai"),
   ("Vith", "Vithkuqi"),
   ("Wara", "Warang_Citi"),
   ("Wcho", "Wancho"),
   ("Xpeo", "Old_Persian"),
   ("Xsux", "Cuneiform"),
   ("Yezi", "Yezidi"),
   ("Yiii", "Yi"),
   ("Zanb", "Zanabazar_Square"),
   ("Zinh", "Inherited"),
   ("Zyyy", "Common")]

end AccessGate.Unicode
