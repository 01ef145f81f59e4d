/-!
Names of letters and signs of West African, Hmong and other scripts of recent making, of Tangut and
kana, and of shorthand.
-/

namespace ReleaseAdvisor.Text

def recentNames : List (Nat × List String) :=
  [(0x16800, [
      "BAMUM LETTER PHASE-A NGKUE MFON|3GBIEE FON|3PON MFON PIPAEMGBIEE|5PIPAEMBA|3NAA MFON",
      "3SHUENSHUET|3TITA MFON|3NZA MFON|3SHINDA PA NJI|3PON PA NJI PIPAEMGBIEE|6PIPAEMBA",
      "3MAEMBGBIEE|3TU MAEMBA|3NGANGU|3MAEMVEUX|3MANSUAE|3MVEUAENGAM|3SEUNYAM|3NTOQPEN",
      "3KEUKEUTNDA|3NKINDI|3SUU|3NGKUENZEUM|3LAPAQ|3LET KUT|3NTAP MFAA|3MAEKEUP|3PASHAE",
      "3GHEUAERAE|3PAMSHAE|3MON NGGEUAET|3NZUN MEUT|3U YUQ NAE|3GHEUAEGHEUAE|3NTAP NTAA|3SISA",
      "3MGBASA|3MEUNJOMNDEUQ|3MOOMPUQ|3KAFA|3PA LEERAEWA|3NDA LEERAEWA|3PET|3MAEMKPEN|3NIKA",
      "3PUP|3TUAEP|3LUAEP|3SONJAM|3TEUTEUWEN|3MAENYI|3KET|3NDAANGGEUAET|3KUOQ|3MOOMEUT|3SHUM",
      "3LOMMAE|3FIRI|3ROM|3KPOQ|3SOQ|3MAP PIEET|3SHIRAE|3NTAP|3SHOQ NSHUT YUM|3NYIT MONGKEUAEQ",
      "3PAARAE|3NKAARAE|3UNKNOWN|3NGGEN|3MAESI|3NJAM|3MBANYI|3NYET|3TEUAEN|3SOT|3PAAM|3NSHIEE",
      "3MAEM|3NYI|3KAQ|3NSHA|3VEE|3LU|3NEN|3NAQ|3MBAQ|2PHASE-B NSHUET|3TU MAEMGBIEE|3SIEE",
      "3SET TU|3LOM NTEUM|3MBA MAELEE|3KIEEM|3YEURAE|3MBAARAE|3KAM|3PEESHI|3YAFU LEERAEWA",
      "3LAM NSHUT NYAM|3NTIEE SHEUOQ|3NDU NJAA|3GHEUGHEUAEM|3PIT|3TU NSIEE|3SHET NJAQ",
      "3SHEUAEQTU|3MFON TEUAEQ|3MBIT MBAAKET|3NYI NTEUM|3KEUPUQ|3GHEUGHEN|3KEUYEUX|3LAANAE",
      "3PARUM|3VEUM|3NGKINDI MVOP|3NGGEU MBU|3WUAET|3SAKEUAE|3TAAM|3MEUQ|3NGGUOQ|4LARGE|3MFIYAQ",
      "3SUE|3MBEURI|3MONTIEEN|3NYAEMAE|3PUNGAAM|3MEUT NGGEET|3FEUX|3MBUOQ|3FEE|3KEUAEM",
      "3MA NJEUAENA|4NJUQA|3LET|3NGGAAM|3NSEN|3MA|3KIQ|3NGOM|2PHASE-C NGKUE MAEMBA|3NZA|3YUM",
      "3WANGKUOQ|3NGGEN|3NDEUAEREE|3NGKAQ|3GHARAE|3MBEEKEET|3GBAYI|3NYIR MKPARAQ MEUN|3NTU MBIT",
      "3MBEUM|3PIRIEEN|3NDOMBU|3MBAA CABBAGE-TREE|3KEUSHEUAEP|3GHAP|3KEUKAQ|3YU MUOMAE|3NZEUM",
      "3MBUE|3NSEUAEN|3MBIT|3YEUQ|3KPARAQ|3KAA|3SEUX|3NDIDA|3TAASHAE|3NJUEQ|3TITA YUE|3SUAET",
      "3NGGUAEN NYAM|3VEUX|3NANSANAQ|3MA KEUAERI|3NTAA|3NGGUON|3LAP|3MBIRIEEN|3MGBASAQ",
      "3NTEUNGBA|3TEUTEUX|3NGGUM|3FUE|3NDEUT|3NSA|3NSHAQ|3BUNG|3VEUAEPEN|3MBERAE|3RU|3NJAEM",
      "3LAM|3TITUAEP|3NSUOT NGOM|3NJEEEE|3KET|3NGGU|3MAESI|3MBUAEM|3LU|3KUT|3NJAM|3NGOM|3WUP",
      "3NGGUEET|3NSOM|3NTEN|3KUOP NKAARAE|3NSUN|3NDAM|3MA NSIEE|3YAA|3NDAP|3SHUEQ|3SETFON|3MBI",
      "3MAEMBA|3MBANYI|3KEUSEUX|3MBEUX|3KEUM|3MBAA PICKET|3YUWOQ|3NJEUX|3MIEE|3MUAE|3SHIQ",
      "3KEN LAW|4FATIGUE|3NGAQ|3NAQ|3LIQ|3PIN|3PEN|3TET|2PHASE-D MBUO|3WAP|3NJI|3MFON|3NJIEE",
      "3LIEE|3NJEUT|3NSHEE|3NGGAAMAE|3NYAM|3WUAEN|3NGKUN|3SHEE|3NGKAP|3KEUAETMEUN|3TEUT|3SHEUAE",
      "3NJAP|3SUE|3KET|3YAEMMAE|3KUOM|3SAP|3MFEUT|3NDEUX|3MALEERI|3MEUT|3SEUAEQ|3YEN|3NJEUAEM",
      "3KEUOT MBUAE|3NGKEURI|3TU|3GHAA|3NGKYEE|3FEUFEUAET|3NDEE|3MGBOFUM|3LEUAEP|3NDON|3MONI",
      "3MGBEUN|3PUUT|3MGBIEE|3MFO|3LUM|3NSIEEP|3MBAA|3KWAET|3NYET|3TEUAEN|3SOT|3YUWOQ|3KEUM",
      "3RAEM|3TEEEE|3NGKEUAEQ|3MFEUAE|3NSIEET|3KEUP|3PIP|3PEUTAE|3NYUE|3LET|3NGGAAM|3MFIEE",
      "3NGGWAEN|3YUOM|3PAP|3YUOP|3NDAM|3NTEUM|3SUAE|3KUN|3NGGEUX|3NGKIEE|3TUOT|3MEUN|3KUQ|3NSUM",
      "3TEUN|3MAENJET|3NGGAP|3LEUM|3NGGUOM|3NSHUT|3NJUEQ|3GHEUAE|3KU|3REN OLD|3TAE|3TOQ|3NYI",
      "3RII|3LEEEE|3MEEEE|3M|3SUU|3MU|3SHII|3SHEUX|3KYEE|3NU|3SHU|3NTEE|3PEE|3NI|3SHOQ|3PUQ",
      "3MVOP|3LOQ|3REN MUCH|3TI|3NTUU|3MBAA SEVEN|3SAQ|3FAA|2PHASE-E NDAP|3TOON|3MBEUM|3LAP",
      "3VOM|3LOON|3PAA|3SOM|3RAQ|3NSHUOP|3NDUN|3PUAE|3TAM|3NGKA|3KPEUX|3WUO|3SEE|3NGGEUAET",
      "3PAAM|3TOO|3KUOP|3LOM|3NSHIEE|3NGOP|3MAEM|3NGKEUX|3NGOQ|3NSHUE|3RIMGBA|3NJEUX|3PEEM|3SAA",
      "3NGGURAE|3MGBA|3GHEUX|3NGKEUAEM|3NJAEMLI|3MAP|3LOOT|3NGGEEEE|3NDIQ|3TAEN NTEUM|3SET|3PUM",
      "3NDAA SOFTNESS|3NGGUAESHAE NYAM|3YIEE|3GHEUN|3TUAE|3YEUAE|3PO|3TUMAE|3KEUAE|3SUAEN",
      "3TEUAEQ|3VEUAE|3WEUX|3LAAM|3PU|3TAAQ|3GHAAMAE|3NGEUREUT|3SHEUAEQ|3MGBEN|3MBEE|3NZAQ",
      "3NKOM|3GBET|3TUM|3KUET|3YAP|3NYI CLEAVER|3YIT|3MFEUQ|3NDIAQ|3PIEEQ|3YUEQ|3LEUAEM|3FUE",
      "3GBEUX|3NGKUP|3KET|3MAE|3NGKAAMI|3GHET|3FA|3NTUM|3PEUT|3YEUM|3NGGEUAE|3NYI BETWEEN|3NZUQ",
      "3POON|3MIEE|3FUET|3NAE|3MUAE|3GHEUAE|3FU I|3MVI|3PUAQ|3NGKUM|3KUT|3PIET|3NTAP|3YEUAET",
      "3NGGUP|3PA PEOPLE|3FU CALL|3FOM|3NJEE|3A|3TOQ|3O|3I|3LAQ|3PA PLURAL|3TAA|3TAQ",
      "3NDAA MY HOUSE|3SHIQ|3YEUX|3NGUAE|3YUAEN|3YOQ SWIMMING|4COVER|3YUQ|3YUN|3KEUX|3PEUX",
      "3NJEE EPOCH|3PUE|3WUE|3FEE|3VEE|3LU|3MI|3REUX|3RAE|3NGUAET|3NGA|3SHO|3SHOQ|3FU REMEDY",
      "3NA|3PI|3LOQ|3KO|3MEN|3MA|3MAQ|3TEU|3KI|3MON|3TEN|3FAQ|3GHOM|2PHASE-F KA|3U|3KU|3EE|3REE",
      "3TAE|3NYI|3LA|3RII|3RIEE|3MEEEE|3TAA|3NDAA|3NJAEM|3M|3SUU|3SHII|3SI|3SEUX|3KYEE|3KET",
      "3NUAE|3NU|3NJUAE|3YOQ|3SHU|3YA|3NSHA|3PEUX|3NTEE|3WUE|3PEE|3RU|3NI|3REUX|3KEN|3NGKWAEN",
      "3NGGA|3SHO|3PUAE|3FOM|3WA|3LI|3LOQ|3KO|3MBEN|3REN|3MA|3MO|3MBAA|3TET|3KPA|3SAMBA|3VUEQ"]),
    (0x16A40, [
      "MRO LETTER TA|2NGI|2YO|2MIM|2BA|2DA|2A|2PHI|2KHAI|2HAO|2DAI|2CHU|2KEAAE|2OL|2MAEM|2NIN",
      "2PA|2OO|2O|2RO|2SHI|2THEA|2EA|2WA|2E|2KO|2LAN|2LA|2HAI|2RI|2TEK"]),
    (0x16A60, ["MRO DIGIT ZERO|2ONE|2TWO|2THREE|2FOUR|2FIVE|2SIX|2SEVEN|2EIGHT|2NINE"]),
    (0x16A6E, [
      "MRO DANDA|1DOUBLE DANDA|TANGSA LETTER OZ|2OC|2OQ|2OX|2AZ|2AC|2AQ|2AX|2VZ|2VC|2VQ|2VX|2EZ",
      "2EC|2EQ|2EX|2IZ|2IC|2IQ|2IX|2UZ|2UC|2UQ|2UX|2AWZ|2AWC|2AWQ|2AWX|2UIZ|2UIC|2UIQ|2UIX",
      "2FINAL NG|2LONG UEX|2SHORT UEZ|3AWX|2UEC|2UEZ|2UEQ|2UEX|2UIUZ|2UIUC|2UIUQ|2UIUX|2MZ|2MC",
      "2MQ|2MX|2KA|2KHA|2GA|2NGA|2SA|2YA|2WA|2PA|2NYA|2PHA|2BA|2MA|2NA|2HA|2LA|2HTA|2TA|2DA|2RA",
      "2NHA|2SHA|2CA|2TSA|2GHA|2HTTA|2THA|2XA|2FA|2DHA|2CHA|2ZA"]),
    (0x16AC0, ["TANGSA DIGIT ZERO|2ONE|2TWO|2THREE|2FOUR|2FIVE|2SIX|2SEVEN|2EIGHT|2NINE"]),
    (0x16AD0, [
      "BASSA VAH LETTER ENNI|3KA|3SE|3FA|3MBE|3YIE|3GAH|3DHII|3KPAH|3JO|3HWAH|3WA|3ZO|3GBU|3DO",
      "3CE|3UWU|3TO|3BA|3VU|3YEIN|3PA|3WADDA|3A|3O|3OO|3U|3EE|3E|3I"]),
    (0x16AF0, [
      "BASSA VAH COMBINING HIGH TONE|3LOW TONE|3MID TONE|3LOW-MID TONE|3HIGH-LOW TONE",
      "2FULL STOP"]),
    (0x16B00, [
      "PAHAWH HMONG VOWEL KEEB|3KEEV|3KIB|3KIV|3KAUB|3KAUV|3KUB|3KUV|3KEB|3KEV|3KAIB|3KAIV",
      "3KOOB|3KOOV|3KAWB|3KAWV|3KUAB|3KUAV|3KOB|3KOV|3KIAB|3KIAV|3KAB|3KAV|3KWB|3KWV|3KAAB",
      "3KAAV|2CONSONANT VAU|3NTSAU|3LAU|3HAU|3NLAU|3RAU|3NKAU|3QHAU|3YAU|3HLAU|3MAU|3CHAU",
      "3NCHAU|3HNAU|3PLHAU|3NTHAU|3NAU|3AU|3XAU|3CAU|2MARK CIM TUB|4SO|4KES|4KHAV|4SUAM|4HOM",
      "4TAUM|2SIGN VOS THOM|4TSHAB CEEB|3CIM CHEEM|3VOS THIAB|4FEEM|3XYEEM NTXIV|4RHO|4TOV",
      "4FAIB|3VOS SEEV|3MEEJ SUAB|3VOS NRUA|3IB YAM|3XAUS|3CIM TSOV ROG"]),
    (0x16B50, ["PAHAWH HMONG DIGIT ZERO|3ONE|3TWO|3THREE|3FOUR|3FIVE|3SIX|3SEVEN|3EIGHT|3NINE"]),
    (0x16B5B, [
      "PAHAWH HMONG NUMBER TENS|3HUNDREDS|3TEN THOUSANDS|3MILLIONS|3HUNDRED MILLIONS",
      "3TEN BILLIONS|3TRILLIONS"]),
    (0x16B63, [
      "PAHAWH HMONG SIGN VOS LUB|3XYOO|3HLI|3THIRD-STAGE HLI|3ZWJ THAJ|3HNUB|3NQIG|3XIAB|3NTUJ",
      "3AV|3TXHEEJ CEEV|3MEEJ TSEEB|3TAU|3LOS|3MUS|3CIM HAIS LUS NTOG NTOG|4CUAM TSHOOJ|4TXWV",
      "5CHWV|4PUB DAWB|4NRES TOS"]),
    (0x16B7D, [
      "PAHAWH HMONG CLAN SIGN TSHEEJ|4YEEG|4LIS|4LAUJ|4XYOOJ|4KOO|4HAWJ|4MUAS|4THOJ|4TSAB|4PHAB",
      "4KHAB|4HAM|4VAJ|4FAJ|4YAJ|4TSWB|4KWM|4VWJ"]),
    (0x16E40, [
      "MEDEFAIDRIN CAPITAL LETTER M|3S|3V|3W|3ATIU|3Z|3KP|3P|3T|3G|3F|3I|3K|3A|3J|3E|3B|3C|3U",
      "3YU|3L|3Q|3HP|3NY|3X|3D|3OE|3N|3R|3O|3AI|3Y|1SMALL LETTER M|3S|3V|3W|3ATIU|3Z|3KP|3P|3T",
      "3G|3F|3I|3K|3A|3J|3E|3B|3C|3U|3YU|3L|3Q|3HP|3NY|3X|3D|3OE|3N|3R|3O|3AI|3Y|1DIGIT ZERO",
      "2ONE|2TWO|2THREE|2FOUR|2FIVE|2SIX|2SEVEN|2EIGHT|2NINE|1NUMBER TEN|2ELEVEN|2TWELVE",
      "2THIRTEEN|2FOURTEEN|2FIFTEEN|2SIXTEEN|2SEVENTEEN|2EIGHTEEN|2NINETEEN",
      "1DIGIT ONE ALTERNATE FORM|2TWO ALTERNATE FORM|2THREE ALTERNATE FORM|1COMMA|1FULL STOP",
      "1SYMBOL AIVA|1EXCLAMATION OH"]),
    (0x16F00, [
      "MIAO LETTER PA|2BA|2YI PA|2PLA|2MA|2MHA|2ARCHAIC MA|2FA|2VA|2VFA|2TA|2DA|2YI TTA|3TA",
      "2TTA|2DDA|2NA|2NHA|2YI NNA|2ARCHAIC NA|2NNA|2NNHA|2LA|2LYA|2LHA|2LHYA|2TLHA|2DLHA|2TLHYA",
      "2DLHYA|2KA|2GA|2YI KA|2QA|2QGA|2NGA|2NGHA|2ARCHAIC NGA|2HA|2XA|2GHA|2GHHA|2TSSA|2DZZA",
      "2NYA|2NYHA|2TSHA|2DZHA|2YI TSHA|3DZHA|2REFORMED TSHA|2SHA|2SSA|2ZHA|2ZSHA|2TSA|2DZA",
      "2YI TSA|2SA|2ZA|2ZSA|2ZZA|2ZZSA|2ARCHAIC ZZA|2ZZYA|2ZZSYA|2WA|2AH|2HHA|2BRI|2SYI|2DZYI",
      "2TE|2TSE|2RTE"]),
    (0x16F4F, [
      "MIAO SIGN CONSONANT MODIFIER BAR|1LETTER NASALIZATION|1SIGN ASPIRATION|2REFORMED VOICING",
      "3ASPIRATION|1VOWEL SIGN A|3AA|3AHH|3AN|3ANG|3O|3OO|3WO|3W|3E|3EN|3ENG|3OEY|3I|3IA|3IAN",
      "3IANG|3IO|3IE|3II|3IU|3ING|3U|3UA|3UAN|3UANG|3UU|3UEI|3UNG|3Y|3YI|3AE|3AEE|3ERR",
      "3ROUNDED ERR|3ER|3ROUNDED ER|3AI|3EI|3AU|3OU|3N|3NG|3UOG|3YUI|3OG|3OER|3VW|3IG|3EA|3IONG",
      "3UI"]),
    (0x16F8F, [
      "MIAO TONE RIGHT|2TOP RIGHT|2ABOVE|2BELOW|1LETTER TONE-2|2TONE-3|2TONE-4|2TONE-5|2TONE-6",
      "2TONE-7|2TONE-8|2REFORMED TONE-1|3TONE-2|3TONE-4|3TONE-5|3TONE-6|3TONE-8"]),
    (0x16FE0, [
      "TANGUT ITERATION MARK|NUSHU ITERATION MARK|OLD CHINESE HOOK MARK|2ITERATION MARK",
      "KHITAN SMALL SCRIPT FILLER"]),
    (0x16FF0, ["VIETNAMESE ALTERNATE READING MARK CA|4NHAY"]),
    (0x18800, [
      "TANGUT COMPONENT-001|1COMPONENT-002|1COMPONENT-003|1COMPONENT-004|1COMPONENT-005",
      "1COMPONENT-006|1COMPONENT-007|1COMPONENT-008|1COMPONENT-009|1COMPONENT-010",
      "1COMPONENT-011|1COMPONENT-012|1COMPONENT-013|1COMPONENT-014|1COMPONENT-015",
      "1COMPONENT-016|1COMPONENT-017|1COMPONENT-018|1COMPONENT-019|1COMPONENT-020",
      "1COMPONENT-021|1COMPONENT-022|1COMPONENT-023|1COMPONENT-024|1COMPONENT-025",
      "1COMPONENT-026|1COMPONENT-027|1COMPONENT-028|1COMPONENT-029|1COMPONENT-030",
      "1COMPONENT-031|1COMPONENT-032|1COMPONENT-033|1COMPONENT-034|1COMPONENT-035",
      "1COMPONENT-036|1COMPONENT-037|1COMPONENT-038|1COMPONENT-039|1COMPONENT-040",
      "1COMPONENT-041|1COMPONENT-042|1COMPONENT-043|1COMPONENT-044|1COMPONENT-045",
      "1COMPONENT-046|1COMPONENT-047|1COMPONENT-048|1COMPONENT-049|1COMPONENT-050",
      "1COMPONENT-051|1COMPONENT-052|1COMPONENT-053|1COMPONENT-054|1COMPONENT-055",
      "1COMPONENT-056|1COMPONENT-057|1COMPONENT-058|1COMPONENT-059|1COMPONENT-060",
      "1COMPONENT-061|1COMPONENT-062|1COMPONENT-063|1COMPONENT-064|1COMPONENT-065",
      "1COMPONENT-066|1COMPONENT-067|1COMPONENT-068|1COMPONENT-069|1COMPONENT-070",
      "1COMPONENT-071|1COMPONENT-072|1COMPONENT-073|1COMPONENT-074|1COMPONENT-075",
      "1COMPONENT-076|1COMPONENT-077|1COMPONENT-078|1COMPONENT-079|1COMPONENT-080",
      "1COMPONENT-081|1COMPONENT-082|1COMPONENT-083|1COMPONENT-084|1COMPONENT-085",
      "1COMPONENT-086|1COMPONENT-087|1COMPONENT-088|1COMPONENT-089|1COMPONENT-090",
      "1COMPONENT-091|1COMPONENT-092|1COMPONENT-093|1COMPONENT-094|1COMPONENT-095",
      "1COMPONENT-096|1COMPONENT-097|1COMPONENT-098|1COMPONENT-099|1COMPONENT-100",
      "1COMPONENT-101|1COMPONENT-102|1COMPONENT-103|1COMPONENT-104|1COMPONENT-105",
      "1COMPONENT-106|1COMPONENT-107|1COMPONENT-108|1COMPONENT-109|1COMPONENT-110",
      "1COMPONENT-111|1COMPONENT-112|1COMPONENT-113|1COMPONENT-114|1COMPONENT-115",
      "1COMPONENT-116|1COMPONENT-117|1COMPONENT-118|1COMPONENT-119|1COMPONENT-120",
      "1COMPONENT-121|1COMPONENT-122|1COMPONENT-123|1COMPONENT-124|1COMPONENT-125",
      "1COMPONENT-126|1COMPONENT-127|1COMPONENT-128|1COMPONENT-129|1COMPONENT-130",
      "1COMPONENT-131|1COMPONENT-132|1COMPONENT-133|1COMPONENT-134|1COMPONENT-135",
      "1COMPONENT-136|1COMPONENT-137|1COMPONENT-138|1COMPONENT-139|1COMPONENT-140",
      "1COMPONENT-141|1COMPONENT-142|1COMPONENT-143|1COMPONENT-144|1COMPONENT-145",
      "1COMPONENT-146|1COMPONENT-147|1COMPONENT-148|1COMPONENT-149|1COMPONENT-150",
      "1COMPONENT-151|1COMPONENT-152|1COMPONENT-153|1COMPONENT-154|1COMPONENT-155",
      "1COMPONENT-156|1COMPONENT-157|1COMPONENT-158|1COMPONENT-159|1COMPONENT-160",
      "1COMPONENT-161|1COMPONENT-162|1COMPONENT-163|1COMPONENT-164|1COMPONENT-165",
      "1COMPONENT-166|1COMPONENT-167|1COMPONENT-168|1COMPONENT-169|1COMPONENT-170",
      "1COMPONENT-171|1COMPONENT-172|1COMPONENT-173|1COMPONENT-174|1COMPONENT-175",
      "1COMPONENT-176|1COMPONENT-177|1COMPONENT-178|1COMPONENT-179|1COMPONENT-180",
      "1COMPONENT-181|1COMPONENT-182|1COMPONENT-183|1COMPONENT-184|1COMPONENT-185",
      "1COMPONENT-186|1COMPONENT-187|1COMPONENT-188|1COMPONENT-189|1COMPONENT-190",
      "1COMPONENT-191|1COMPONENT-192|1COMPONENT-193|1COMPONENT-194|1COMPONENT-195",
      "1COMPONENT-196|1COMPONENT-197|1COMPONENT-198|1COMPONENT-199|1COMPONENT-200",
      "1COMPONENT-201|1COMPONENT-202|1COMPONENT-203|1COMPONENT-204|1COMPONENT-205",
      "1COMPONENT-206|1COMPONENT-207|1COMPONENT-208|1COMPONENT-209|1COMPONENT-210",
      "1COMPONENT-211|1COMPONENT-212|1COMPONENT-213|1COMPONENT-214|1COMPONENT-215",
      "1COMPONENT-216|1COMPONENT-217|1COMPONENT-218|1COMPONENT-219|1COMPONENT-220",
      "1COMPONENT-221|1COMPONENT-222|1COMPONENT-223|1COMPONENT-224|1COMPONENT-225",
      "1COMPONENT-226|1COMPONENT-227|1COMPONENT-228|1COMPONENT-229|1COMPONENT-230",
      "1COMPONENT-231|1COMPONENT-232|1COMPONENT-233|1COMPONENT-234|1COMPONENT-235",
      "1COMPONENT-236|1COMPONENT-237|1COMPONENT-238|1COMPONENT-239|1COMPONENT-240",
      "1COMPONENT-241|1COMPONENT-242|1COMPONENT-243|1COMPONENT-244|1COMPONENT-245",
      "1COMPONENT-246|1COMPONENT-247|1COMPONENT-248|1COMPONENT-249|1COMPONENT-250",
      "1COMPONENT-251|1COMPONENT-252|1COMPONENT-253|1COMPONENT-254|1COMPONENT-255",
      "1COMPONENT-256|1COMPONENT-257|1COMPONENT-258|1COMPONENT-259|1COMPONENT-260",
      "1COMPONENT-261|1COMPONENT-262|1COMPONENT-263|1COMPONENT-264|1COMPONENT-265",
      "1COMPONENT-266|1COMPONENT-267|1COMPONENT-268|1COMPONENT-269|1COMPONENT-270",
      "1COMPONENT-271|1COMPONENT-272|1COMPONENT-273|1COMPONENT-274|1COMPONENT-275",
      "1COMPONENT-276|1COMPONENT-277|1COMPONENT-278|1COMPONENT-279|1COMPONENT-280",
      "1COMPONENT-281|1COMPONENT-282|1COMPONENT-283|1COMPONENT-284|1COMPONENT-285",
      "1COMPONENT-286|1COMPONENT-287|1COMPONENT-288|1COMPONENT-289|1COMPONENT-290",
      "1COMPONENT-291|1COMPONENT-292|1COMPONENT-293|1COMPONENT-294|1COMPONENT-295",
      "1COMPONENT-296|1COMPONENT-297|1COMPONENT-298|1COMPONENT-299|1COMPONENT-300",
      "1COMPONENT-301|1COMPONENT-302|1COMPONENT-303|1COMPONENT-304|1COMPONENT-305",
      "1COMPONENT-306|1COMPONENT-307|1COMPONENT-308|1COMPONENT-309|1COMPONENT-310",
      "1COMPONENT-311|1COMPONENT-312|1COMPONENT-313|1COMPONENT-314|1COMPONENT-315",
      "1COMPONENT-316|1COMPONENT-317|1COMPONENT-318|1COMPONENT-319|1COMPONENT-320",
      "1COMPONENT-321|1COMPONENT-322|1COMPONENT-323|1COMPONENT-324|1COMPONENT-325",
      "1COMPONENT-326|1COMPONENT-327|1COMPONENT-328|1COMPONENT-329|1COMPONENT-330",
      "1COMPONENT-331|1COMPONENT-332|1COMPONENT-333|1COMPONENT-334|1COMPONENT-335",
      "1COMPONENT-336|1COMPONENT-337|1COMPONENT-338|1COMPONENT-339|1COMPONENT-340",
      "1COMPONENT-341|1COMPONENT-342|1COMPONENT-343|1COMPONENT-344|1COMPONENT-345",
      "1COMPONENT-346|1COMPONENT-347|1COMPONENT-348|1COMPONENT-349|1COMPONENT-350",
      "1COMPONENT-351|1COMPONENT-352|1COMPONENT-353|1COMPONENT-354|1COMPONENT-355",
      "1COMPONENT-356|1COMPONENT-357|1COMPONENT-358|1COMPONENT-359|1COMPONENT-360",
      "1COMPONENT-361|1COMPONENT-362|1COMPONENT-363|1COMPONENT-364|1COMPONENT-365",
      "1COMPONENT-366|1COMPONENT-367|1COMPONENT-368|1COMPONENT-369|1COMPONENT-370",
      "1COMPONENT-371|1COMPONENT-372|1COMPONENT-373|1COMPONENT-374|1COMPONENT-375",
      "1COMPONENT-376|1COMPONENT-377|1COMPONENT-378|1COMPONENT-379|1COMPONENT-380",
      "1COMPONENT-381|1COMPONENT-382|1COMPONENT-383|1COMPONENT-384|1COMPONENT-385",
      "1COMPONENT-386|1COMPONENT-387|1COMPONENT-388|1COMPONENT-389|1COMPONENT-390",
      "1COMPONENT-391|1COMPONENT-392|1COMPONENT-393|1COMPONENT-394|1COMPONENT-395",
      "1COMPONENT-396|1COMPONENT-397|1COMPONENT-398|1COMPONENT-399|1COMPONENT-400",
      "1COMPONENT-401|1COMPONENT-402|1COMPONENT-403|1COMPONENT-404|1COMPONENT-405",
      "1COMPONENT-406|1COMPONENT-407|1COMPONENT-408|1COMPONENT-409|1COMPONENT-410",
      "1COMPONENT-411|1COMPONENT-412|1COMPONENT-413|1COMPONENT-414|1COMPONENT-415",
      "1COMPONENT-416|1COMPONENT-417|1COMPONENT-418|1COMPONENT-419|1COMPONENT-420",
      "1COMPONENT-421|1COMPONENT-422|1COMPONENT-423|1COMPONENT-424|1COMPONENT-425",
      "1COMPONENT-426|1COMPONENT-427|1COMPONENT-428|1COMPONENT-429|1COMPONENT-430",
      "1COMPONENT-431|1COMPONENT-432|1COMPONENT-433|1COMPONENT-434|1COMPONENT-435",
      "1COMPONENT-436|1COMPONENT-437|1COMPONENT-438|1COMPONENT-439|1COMPONENT-440",
      "1COMPONENT-441|1COMPONENT-442|1COMPONENT-443|1COMPONENT-444|1COMPONENT-445",
      "1COMPONENT-446|1COMPONENT-447|1COMPONENT-448|1COMPONENT-449|1COMPONENT-450",
      "1COMPONENT-451|1COMPONENT-452|1COMPONENT-453|1COMPONENT-454|1COMPONENT-455",
      "1COMPONENT-456|1COMPONENT-457|1COMPONENT-458|1COMPONENT-459|1COMPONENT-460",
      "1COMPONENT-461|1COMPONENT-462|1COMPONENT-463|1COMPONENT-464|1COMPONENT-465",
      "1COMPONENT-466|1COMPONENT-467|1COMPONENT-468|1COMPONENT-469|1COMPONENT-470",
      "1COMPONENT-471|1COMPONENT-472|1COMPONENT-473|1COMPONENT-474|1COMPONENT-475",
      "1COMPONENT-476|1COMPONENT-477|1COMPONENT-478|1COMPONENT-479|1COMPONENT-480",
      "1COMPONENT-481|1COMPONENT-482|1COMPONENT-483|1COMPONENT-484|1COMPONENT-485",
      "1COMPONENT-486|1COMPONENT-487|1COMPONENT-488|1COMPONENT-489|1COMPONENT-490",
      "1COMPONENT-491|1COMPONENT-492|1COMPONENT-493|1COMPONENT-494|1COMPONENT-495",
      "1COMPONENT-496|1COMPONENT-497|1COMPONENT-498|1COMPONENT-499|1COMPONENT-500",
      "1COMPONENT-501|1COMPONENT-502|1COMPONENT-503|1COMPONENT-504|1COMPONENT-505",
      "1COMPONENT-506|1COMPONENT-507|1COMPONENT-508|1COMPONENT-509|1COMPONENT-510",
      "1COMPONENT-511|1COMPONENT-512|1COMPONENT-513|1COMPONENT-514|1COMPONENT-515",
      "1COMPONENT-516|1COMPONENT-517|1COMPONENT-518|1COMPONENT-519|1COMPONENT-520",
      "1COMPONENT-521|1COMPONENT-522|1COMPONENT-523|1COMPONENT-524|1COMPONENT-525",
      "1COMPONENT-526|1COMPONENT-527|1COMPONENT-528|1COMPONENT-529|1COMPONENT-530",
      "1COMPONENT-531|1COMPONENT-532|1COMPONENT-533|1COMPONENT-534|1COMPONENT-535",
      "1COMPONENT-536|1COMPONENT-537|1COMPONENT-538|1COMPONENT-539|1COMPONENT-540",
      "1COMPONENT-541|1COMPONENT-542|1COMPONENT-543|1COMPONENT-544|1COMPONENT-545",
      "1COMPONENT-546|1COMPONENT-547|1COMPONENT-548|1COMPONENT-549|1COMPONENT-550",
      "1COMPONENT-551|1COMPONENT-552|1COMPONENT-553|1COMPONENT-554|1COMPONENT-555",
      "1COMPONENT-556|1COMPONENT-557|1COMPONENT-558|1COMPONENT-559|1COMPONENT-560",
      "1COMPONENT-561|1COMPONENT-562|1COMPONENT-563|1COMPONENT-564|1COMPONENT-565",
      "1COMPONENT-566|1COMPONENT-567|1COMPONENT-568|1COMPONENT-569|1COMPONENT-570",
      "1COMPONENT-571|1COMPONENT-572|1COMPONENT-573|1COMPONENT-574|1COMPONENT-575",
      "1COMPONENT-576|1COMPONENT-577|1COMPONENT-578|1COMPONENT-579|1COMPONENT-580",
      "1COMPONENT-581|1COMPONENT-582|1COMPONENT-583|1COMPONENT-584|1COMPONENT-585",
      "1COMPONENT-586|1COMPONENT-587|1COMPONENT-588|1COMPONENT-589|1COMPONENT-590",
      "1COMPONENT-591|1COMPONENT-592|1COMPONENT-593|1COMPONENT-594|1COMPONENT-595",
      "1COMPONENT-596|1COMPONENT-597|1COMPONENT-598|1COMPONENT-599|1COMPONENT-600",
      "1COMPONENT-601|1COMPONENT-602|1COMPONENT-603|1COMPONENT-604|1COMPONENT-605",
      "1COMPONENT-606|1COMPONENT-607|1COMPONENT-608|1COMPONENT-609|1COMPONENT-610",
      "1COMPONENT-611|1COMPONENT-612|1COMPONENT-613|1COMPONENT-614|1COMPONENT-615",
      "1COMPONENT-616|1COMPONENT-617|1COMPONENT-618|1COMPONENT-619|1COMPONENT-620",
      "1COMPONENT-621|1COMPONENT-622|1COMPONENT-623|1COMPONENT-624|1COMPONENT-625",
      "1COMPONENT-626|1COMPONENT-627|1COMPONENT-628|1COMPONENT-629|1COMPONENT-630",
      "1COMPONENT-631|1COMPONENT-632|1COMPONENT-633|1COMPONENT-634|1COMPONENT-635",
      "1COMPONENT-636|1COMPONENT-637|1COMPONENT-638|1COMPONENT-639|1COMPONENT-640",
      "1COMPONENT-641|1COMPONENT-642|1COMPONENT-643|1COMPONENT-644|1COMPONENT-645",
      "1COMPONENT-646|1COMPONENT-647|1COMPONENT-648|1COMPONENT-649|1COMPONENT-650",
      "1COMPONENT-651|1COMPONENT-652|1COMPONENT-653|1COMPONENT-654|1COMPONENT-655",
      "1COMPONENT-656|1COMPONENT-657|1COMPONENT-658|1COMPONENT-659|1COMPONENT-660",
      "1COMPONENT-661|1COMPONENT-662|1COMPONENT-663|1COMPONENT-664|1COMPONENT-665",
      "1COMPONENT-666|1COMPONENT-667|1COMPONENT-668|1COMPONENT-669|1COMPONENT-670",
      "1COMPONENT-671|1COMPONENT-672|1COMPONENT-673|1COMPONENT-674|1COMPONENT-675",
      "1COMPONENT-676|1COMPONENT-677|1COMPONENT-678|1COMPONENT-679|1COMPONENT-680",
      "1COMPONENT-681|1COMPONENT-682|1COMPONENT-683|1COMPONENT-684|1COMPONENT-685",
      "1COMPONENT-686|1COMPONENT-687|1COMPONENT-688|1COMPONENT-689|1COMPONENT-690",
      "1COMPONENT-691|1COMPONENT-692|1COMPONENT-693|1COMPONENT-694|1COMPONENT-695",
      "1COMPONENT-696|1COMPONENT-697|1COMPONENT-698|1COMPONENT-699|1COMPONENT-700",
      "1COMPONENT-701|1COMPONENT-702|1COMPONENT-703|1COMPONENT-704|1COMPONENT-705",
      "1COMPONENT-706|1COMPONENT-707|1COMPONENT-708|1COMPONENT-709|1COMPONENT-710",
      "1COMPONENT-711|1COMPONENT-712|1COMPONENT-713|1COMPONENT-714|1COMPONENT-715",
      "1COMPONENT-716|1COMPONENT-717|1COMPONENT-718|1COMPONENT-719|1COMPONENT-720",
      "1COMPONENT-721|1COMPONENT-722|1COMPONENT-723|1COMPONENT-724|1COMPONENT-725",
      "1COMPONENT-726|1COMPONENT-727|1COMPONENT-728|1COMPONENT-729|1COMPONENT-730",
      "1COMPONENT-731|1COMPONENT-732|1COMPONENT-733|1COMPONENT-734|1COMPONENT-735",
      "1COMPONENT-736|1COMPONENT-737|1COMPONENT-738|1COMPONENT-739|1COMPONENT-740",
      "1COMPONENT-741|1COMPONENT-742|1COMPONENT-743|1COMPONENT-744|1COMPONENT-745",
      "1COMPONENT-746|1COMPONENT-747|1COMPONENT-748|1COMPONENT-749|1COMPONENT-750",
      "1COMPONENT-751|1COMPONENT-752|1COMPONENT-753|1COMPONENT-754|1COMPONENT-755",
      "1COMPONENT-756|1COMPONENT-757|1COMPONENT-758|1COMPONENT-759|1COMPONENT-760",
      "1COMPONENT-761|1COMPONENT-762|1COMPONENT-763|1COMPONENT-764|1COMPONENT-765",
      "1COMPONENT-766|1COMPONENT-767|1COMPONENT-768"]),
    (0x1AFF0, ["KATAKANA LETTER MINNAN TONE-2|3TONE-3|3TONE-4|3TONE-5"]),
    (0x1AFF5, [
      "KATAKANA LETTER MINNAN TONE-7|3TONE-8|3NASALIZED TONE-1|4TONE-2|4TONE-3|4TONE-4|4TONE-5"]),
    (0x1AFFD, ["KATAKANA LETTER MINNAN NASALIZED TONE-7|4TONE-8"]),
    (0x1B000, [
      "KATAKANA LETTER ARCHAIC E|HIRAGANA LETTER ARCHAIC YE|HENTAIGANA LETTER A-1|2A-2|2A-3",
      "2A-WO|2I-1|2I-2|2I-3|2I-4|2U-1|2U-2|2U-3|2U-4|2U-5|2E-2|2E-3|2E-4|2E-5|2E-6|2O-1|2O-2",
      "2O-3|2KA-1|2KA-2|2KA-3|2KA-4|2KA-5|2KA-6|2KA-7|2KA-8|2KA-9|2KA-10|2KA-11|2KA-KE|2KI-1",
      "2KI-2|2KI-3|2KI-4|2KI-5|2KI-6|2KI-7|2KI-8|2KU-1|2KU-2|2KU-3|2KU-4|2KU-5|2KU-6|2KU-7",
      "2KE-1|2KE-2|2KE-3|2KE-4|2KE-5|2KE-6|2KO-1|2KO-2|2KO-3|2KO-KI|2SA-1|2SA-2|2SA-3|2SA-4",
      "2SA-5|2SA-6|2SA-7|2SA-8|2SI-1|2SI-2|2SI-3|2SI-4|2SI-5|2SI-6|2SU-1|2SU-2|2SU-3|2SU-4",
      "2SU-5|2SU-6|2SU-7|2SU-8|2SE-1|2SE-2|2SE-3|2SE-4|2SE-5|2SO-1|2SO-2|2SO-3|2SO-4|2SO-5",
      "2SO-6|2SO-7|2TA-1|2TA-2|2TA-3|2TA-4|2TI-1|2TI-2|2TI-3|2TI-4|2TI-5|2TI-6|2TI-7|2TU-1",
      "2TU-2|2TU-3|2TU-4|2TU-TO|2TE-1|2TE-2|2TE-3|2TE-4|2TE-5|2TE-6|2TE-7|2TE-8|2TE-9|2TO-1",
      "2TO-2|2TO-3|2TO-4|2TO-5|2TO-6|2TO-RA|2NA-1|2NA-2|2NA-3|2NA-4|2NA-5|2NA-6|2NA-7|2NA-8",
      "2NA-9|2NI-1|2NI-2|2NI-3|2NI-4|2NI-5|2NI-6|2NI-7|2NI-TE|2NU-1|2NU-2|2NU-3|2NE-1|2NE-2",
      "2NE-3|2NE-4|2NE-5|2NE-6|2NE-KO|2NO-1|2NO-2|2NO-3|2NO-4|2NO-5|2HA-1|2HA-2|2HA-3|2HA-4",
      "2HA-5|2HA-6|2HA-7|2HA-8|2HA-9|2HA-10|2HA-11|2HI-1|2HI-2|2HI-3|2HI-4|2HI-5|2HI-6|2HI-7",
      "2HU-1|2HU-2|2HU-3|2HE-1|2HE-2|2HE-3|2HE-4|2HE-5|2HE-6|2HE-7|2HO-1|2HO-2|2HO-3|2HO-4",
      "2HO-5|2HO-6|2HO-7|2HO-8|2MA-1|2MA-2|2MA-3|2MA-4|2MA-5|2MA-6|2MA-7|2MI-1|2MI-2|2MI-3",
      "2MI-4|2MI-5|2MI-6|2MI-7|2MU-1|2MU-2|2MU-3|2MU-4|2ME-1|2ME-2|2ME-MA|2MO-1|2MO-2|2MO-3",
      "2MO-4|2MO-5|2MO-6|2YA-1|2YA-2|2YA-3|2YA-4|2YA-5|2YA-YO|2YU-1|2YU-2|2YU-3|2YU-4|2YO-1",
      "2YO-2|2YO-3|2YO-4|2YO-5|2YO-6|2RA-1|2RA-2|2RA-3|2RA-4|2RI-1|2RI-2|2RI-3|2RI-4|2RI-5",
      "2RI-6|2RI-7|2RU-1|2RU-2|2RU-3|2RU-4|2RU-5|2RU-6|2RE-1|2RE-2|2RE-3|2RE-4|2RO-1|2RO-2",
      "2RO-3|2RO-4|2RO-5|2RO-6|2WA-1|2WA-2|2WA-3|2WA-4|2WA-5|2WI-1|2WI-2|2WI-3|2WI-4|2WI-5",
      "2WE-1|2WE-2|2WE-3|2WE-4|2WO-1|2WO-2|2WO-3|2WO-4|2WO-5|2WO-6|2WO-7|2N-MU-MO-1|2N-MU-MO-2",
      "HIRAGANA LETTER ARCHAIC WU|KATAKANA LETTER ARCHAIC YI|3YE|3WU"]),
    (0x1B150, ["HIRAGANA LETTER SMALL WI|3WE|3WO"]),
    (0x1B164, ["KATAKANA LETTER SMALL WI|3WE|3WO|3N"]),
    (0x1BC00, [
      "DUPLOYAN LETTER H|2X|2P|2T|2F|2K|2L|2B|2D|2V|2G|2R|2P N|2D S|2F N|2K M|2R S|2TH",
      "2SLOAN DH|2DH|2KK|2SLOAN J|2HL|2LH|2RH|2M|2N|2J|2S|2M N|2N M|2J M|2S J|2M WITH DOT",
      "2N WITH DOT|2J WITH DOT|4DOTS INSIDE AND ABOVE|2S WITH DOT|5BELOW|2M S|2N S|2J S|2S S",
      "2M N S|2N M S|2J M S|2S J S|2J S WITH DOT|3N|4S|2S T|4R|3P|4R|2T S|3R S|2W|2WH|2W R|2S N",
      "3M|2K R S|2G R S|2S K|4R|2A|2SLOAN OW|2OA|2O|2AOU|2I|2E|2IE|2SHORT I|2UI|2EE|2SLOAN EH",
      "2ROMANIAN I|2SLOAN EE|2LONG I|2YE|2U|2EU|2XW|2U N|2LONG U|2ROMANIAN U|2UH|2SLOAN U|2OOH",
      "2OW|2OU|2WA|2WO|2WI|2WEI|2WOW|2NASAL U|3O|3I|3A|2PERNIN AN|3AM|2SLOAN EN|3AN|3ON",
      "2VOCALIC M"]),
    (0x1BC70, [
      "DUPLOYAN AFFIX LEFT HORIZONTAL SECANT|2MID HORIZONTAL SECANT|2RIGHT HORIZONTAL SECANT",
      "2LOW VERTICAL SECANT|2MID VERTICAL SECANT|2HIGH VERTICAL SECANT|2ATTACHED SECANT",
      "3LEFT-TO-RIGHT SECANT|3TANGENT|3TAIL|3E HOOK|3I HOOK|3TANGENT HOOK"]),
    (0x1BC80, [
      "DUPLOYAN AFFIX HIGH ACUTE|3TIGHT ACUTE|3GRAVE|3LONG GRAVE|3DOT|3CIRCLE|3LINE|3WAVE",
      "3VERTICAL"]),
    (0x1BC90, [
      "DUPLOYAN AFFIX LOW ACUTE|3TIGHT ACUTE|3GRAVE|3LONG GRAVE|3DOT|3CIRCLE|3LINE|3WAVE",
      "3VERTICAL|3ARROW"]),
    (0x1BC9C, [
      "DUPLOYAN SIGN O WITH CROSS|1THICK LETTER SELECTOR|1DOUBLE MARK",
      "1PUNCTUATION CHINOOK FULL STOP|SHORTHAND FORMAT LETTER OVERLAP|2CONTINUING OVERLAP",
      "2DOWN STEP|2UP STEP"]),
    (0x1DF00, [
      "LATIN SMALL LETTER FENG DIGRAPH WITH TRILL|3REVERSED SCRIPT G",
      "1LETTER SMALL CAPITAL TURNED G|1SMALL LETTER REVERSED K",
      "1LETTER SMALL CAPITAL L WITH BELT|1SMALL LETTER LEZH WITH RETROFLEX HOOK",
      "3TURNED Y WITH BELT|3REVERSED ENG|3TURNED R WITH LONG LEG AND RETROFLEX HOOK",
      "3T WITH HOOK AND RETROFLEX HOOK|1LETTER RETROFLEX CLICK WITH RETROFLEX HOOK",
      "1SMALL LETTER ESH WITH DOUBLE BAR|7AND CURL|3TURNED T WITH CURL",
      "1LETTER INVERTED GLOTTAL STOP WITH CURL|2STRETCHED C WITH CURL|2SMALL CAPITAL TURNED K",
      "1SMALL LETTER L WITH FISHHOOK|3DEZH DIGRAPH WITH PALATAL HOOK",
      "3L WITH BELT AND PALATAL HOOK|3ENG WITH PALATAL HOOK|3TURNED R WITH PALATAL HOOK",
      "3R WITH FISHHOOK AND PALATAL HOOK|3TESH DIGRAPH WITH PALATAL HOOK|3EZH WITH PALATAL HOOK",
      "3DEZH DIGRAPH WITH RETROFLEX HOOK|3I WITH STROKE AND RETROFLEX HOOK",
      "3O WITH RETROFLEX HOOK|3TESH DIGRAPH WITH RETROFLEX HOOK|3C WITH RETROFLEX HOOK",
      "3S WITH CURL"]),
    (0x1E000, ["COMBINING GLAGOLITIC LETTER AZU|3BUKY|3VEDE|3GLAGOLI|3DOBRO|3YESTU|3ZHIVETE"]),
    (0x1E008, [
      "COMBINING GLAGOLITIC LETTER ZEMLJA|3IZHE|3INITIAL IZHE|3I|3DJERVI|3KAKO|3LJUDIJE",
      "3MYSLITE|3NASHI|3ONU|3POKOJI|3RITSI|3SLOVO|3TVRIDO|3UKU|3FRITU|3HERU"]),
    (0x1E01B, ["COMBINING GLAGOLITIC LETTER SHTA|3TSI|3CHRIVI|3SHA|3YERU|3YERI|3YATI"]),
    (0x1E023, ["COMBINING GLAGOLITIC LETTER YU|3SMALL YUS"]),
    (0x1E026, [
      "COMBINING GLAGOLITIC LETTER YO|3IOTATED SMALL YUS|3BIG YUS|3IOTATED BIG YUS|3FITA"]),
    (0x1E100, [
      "NYIAKENG PUACHUE HMONG LETTER MA|4TSA|4NTA|4TA|4HA|4NA|4XA|4NKA|4CA|4LA|4SA|4ZA|4NCA",
      "4NTSA|4KA|4DA|4NYA|4NRA|4VA|4NTXA|4TXA|4FA|4RA|4QA|4YA|4NQA|4PA|4XYA|4NPA|4DLA|4NPLA",
      "4HAH|4MLA|4PLA|4GA|4RRA|4A|4AA|4I|4U|4O|4OO|4E|4EE|4W"]),
    (0x1E130, [
      "NYIAKENG PUACHUE HMONG TONE-B|3TONE-M|3TONE-J|3TONE-V|3TONE-S|3TONE-G|3TONE-D",
      "3SIGN FOR PERSON|5THING|5LOCATION|5ANIMAL|5INVERTEBRATE|4XW XW|3SYLLABLE LENGTHENER"]),
    (0x1E140, [
      "NYIAKENG PUACHUE HMONG DIGIT ZERO|4ONE|4TWO|4THREE|4FOUR|4FIVE|4SIX|4SEVEN|4EIGHT|4NINE"]),
    (0x1E14E, ["NYIAKENG PUACHUE HMONG LOGOGRAM NYAJ|3CIRCLED CA"]),
    (0x1E290, [
      "TOTO LETTER PA|2BA|2TA|2DA|2KA|2GA|2MA|2NA|2NGA|2SA|2CHA|2YA|2WA|2JA|2HA|2RA|2LA|2I",
      "2BREATHY I|2IU|2BREATHY IU|2U|2E|2BREATHY E|2EO|2BREATHY EO|2O|2AE|2BREATHY AE|2A",
      "1SIGN RISING TONE"]),
    (0x1E2C0, [
      "WANCHO LETTER AA|2A|2BA|2CA|2DA|2GA|2YA|2PHA|2LA|2NA|2PA|2TA|2THA|2FA|2SA|2SHA|2JA|2ZA",
      "2WA|2VA|2KA|2O|2AU|2RA|2MA|2KHA|2HA|2E|2I|2NGA|2U|2LLHA|2TSA|2TRA|2ONG|2AANG|2ANG|2ING",
      "2ON|2EN|2AAN|2NYA|2UEN|2YIH|1TONE TUP|2TUPNI|2KOI|2KOINI|1DIGIT ZERO|2ONE|2TWO|2THREE",
      "2FOUR|2FIVE|2SIX|2SEVEN|2EIGHT|2NINE"]),
    (0x1E2FF, ["WANCHO NGUN SIGN"]),
    (0x1E7E0, ["ETHIOPIC SYLLABLE HHYA|2HHYU|2HHYI|2HHYAA|2HHYEE|2HHYE|2HHYO"]),
    (0x1E7E8, ["ETHIOPIC SYLLABLE GURAGE HHWA|2HHWI|2HHWEE|2HHWE"]),
    (0x1E7ED, ["ETHIOPIC SYLLABLE GURAGE MWI|3MWEE"]),
    (0x1E7F0, [
      "ETHIOPIC SYLLABLE GURAGE QWI|3QWEE|3QWE|3BWI|3BWEE|3KWI|3KWEE|3KWE|3GWI|3GWEE|3GWE|3FWI",
      "3FWEE|3PWI|3PWEE"]),
    (0x1E800, [
      "MENDE KIKAKUI SYLLABLE M001 KI|3M002 KA|3M003 KU|3M065 KEE|3M095 KE|3M076 KOO|3M048 KO",
      "3M179 KUA|3M004 WI|3M005 WA|3M006 WU|3M126 WEE|3M118 WE|3M114 WOO|3M045 WO|3M194 WUI",
      "3M143 WEI|3M061 WVI|3M049 WVA|3M139 WVE|3M007 MIN|3M008 MAN|3M009 MUN|3M059 MEN",
      "3M094 MON|3M154 MUAN|3M189 MUEN|3M010 BI|3M011 BA|3M012 BU|3M150 BEE|3M097 BE|3M103 BOO",
      "3M138 BO|3M013 I|3M014 A|3M015 U|3M163 EE|3M100 E|3M165 OO|3M147 O|3M137 EI|3M131 IN",
      "3M135 IN|3M195 AN|3M178 EN|3M019 SI|3M020 SA|3M021 SU|3M162 SEE|3M116 SE|3M136 SOO",
      "3M079 SO|3M196 SIA|3M025 LI|3M026 LA|3M027 LU|3M084 LEE|3M073 LE|3M054 LOO|3M153 LO",
      "3M110 LONG LE|3M016 DI|3M017 DA|3M018 DU|3M089 DEE|3M180 DOO|3M181 DO|3M022 TI|3M023 TA",
      "3M024 TU|3M091 TEE|3M055 TE|3M104 TOO|3M069 TO|3M028 JI|3M029 JA|3M030 JU|3M157 JEE",
      "3M113 JE|3M160 JOO|3M063 JO|3M175 LONG JO|3M031 YI|3M032 YA|3M033 YU|3M109 YEE|3M080 YE",
      "3M141 YOO|3M121 YO|3M034 FI|3M035 FA|3M036 FU|3M078 FEE|3M075 FE|3M133 FOO|3M088 FO",
      "3M197 FUA|3M101 FAN|3M037 NIN|3M038 NAN|3M039 NUN|3M117 NEN|3M169 NON|3M176 HI|3M041 HA",
      "3M186 HU|3M040 HEE|3M096 HE|3M042 HOO|3M140 HO|3M083 HEEI|3M128 HOOU|3M053 HIN|3M130 HAN",
      "3M087 HUN|3M052 HEN|3M193 HON|3M046 HUAN|3M090 NGGI|3M043 NGGA|3M082 NGGU|3M115 NGGEE",
      "3M146 NGGE|3M156 NGGOO|3M120 NGGO|3M159 NGGAA|3M127 NGGUA|3M086 LONG NGGE",
      "3M106 LONG NGGOO|3M183 LONG NGGO|3M155 GI|3M111 GA|3M168 GU|3M190 GEE|3M166 GUEI",
      "3M167 GUAN|3M184 NGEN|3M057 NGON|3M177 NGUAN|3M068 PI|3M099 PA|3M050 PU|3M081 PEE",
      "3M051 PE|3M102 POO|3M066 PO|3M145 MBI|3M062 MBA|3M122 MBU|3M047 MBEE|3M188 MBEE",
      "3M072 MBE|3M172 MBOO|3M174 MBO|3M187 MBUU|3M161 LONG MBE|3M105 LONG MBOO|3M142 LONG MBO",
      "3M132 KPI|3M092 KPA|3M074 KPU|3M044 KPEE|3M108 KPE|3M112 KPOO|3M158 KPO|3M124 GBI",
      "3M056 GBA|3M148 GBU|3M093 GBEE|3M107 GBE|3M071 GBOO|3M070 GBO|3M171 RA|3M123 NDI",
      "3M129 NDA|3M125 NDU|3M191 NDEE|3M119 NDE|3M067 NDOO|3M064 NDO|3M152 NJA|3M192 NJU",
      "3M149 NJEE|3M134 NJOO|3M182 VI|3M185 VA|3M151 VU|3M173 VEE|3M085 VE|3M144 VOO|3M077 VO",
      "3M164 NYIN|3M058 NYAN|3M170 NYUN|3M098 NYEN|3M060 NYON"]),
    (0x1E8C7, [
      "MENDE KIKAKUI DIGIT ONE|3TWO|3THREE|3FOUR|3FIVE|3SIX|3SEVEN|3EIGHT|3NINE",
      "2COMBINING NUMBER TEENS|4TENS|4HUNDREDS|4THOUSANDS|4TEN THOUSANDS|4HUNDRED THOUSANDS",
      "4MILLIONS"]),
    (0x1E900, [
      "ADLAM CAPITAL LETTER ALIF|3DAALI|3LAAM|3MIIM|3BA|3SINNYIIYHE|3PE|3BHE|3RA|3E|3FA|3I|3O",
      "3DHA|3YHE|3WAW|3NUN|3KAF|3YA|3U|3JIIM|3CHI|3HA|3QAAF|3GA|3NYA|3TU|3NHA|3VA|3KHA|3GBE",
      "3ZAL|3KPO|3SHA|1SMALL LETTER ALIF|3DAALI|3LAAM|3MIIM|3BA|3SINNYIIYHE|3PE|3BHE|3RA|3E|3FA",
      "3I|3O|3DHA|3YHE|3WAW|3NUN|3KAF|3YA|3U|3JIIM|3CHI|3HA|3QAAF|3GA|3NYA|3TU|3NHA|3VA|3KHA",
      "3GBE|3ZAL|3KPO|3SHA|1ALIF LENGTHENER|1VOWEL LENGTHENER|1GEMINATION MARK|1HAMZA",
      "1CONSONANT MODIFIER|1GEMINATE CONSONANT MODIFIER|1NUKTA|1NASALIZATION MARK"]),
    (0x1E950, ["ADLAM DIGIT ZERO|2ONE|2TWO|2THREE|2FOUR|2FIVE|2SIX|2SEVEN|2EIGHT|2NINE"]),
    (0x1E95E, ["ADLAM INITIAL EXCLAMATION MARK|2QUESTION MARK"]),
    (0x1EC71, [
      "INDIC SIYAQ NUMBER ONE|3TWO|3THREE|3FOUR|3FIVE|3SIX|3SEVEN|3EIGHT|3NINE|3TEN|3TWENTY",
      "3THIRTY|3FORTY|3FIFTY|3SIXTY|3SEVENTY|3EIGHTY|3NINETY|3ONE HUNDRED|3TWO HUNDRED",
      "3THREE HUNDRED|3FOUR HUNDRED|3FIVE HUNDRED|3SIX HUNDRED|3SEVEN HUNDRED|3EIGHT HUNDRED",
      "3NINE HUNDRED|3ONE THOUSAND|3TWO THOUSAND|3THREE THOUSAND|3FOUR THOUSAND|3FIVE THOUSAND",
      "3SIX THOUSAND|3SEVEN THOUSAND|3EIGHT THOUSAND|3NINE THOUSAND|3TEN THOUSAND",
      "3TWENTY THOUSAND|3THIRTY THOUSAND|3FORTY THOUSAND|3FIFTY THOUSAND|3SIXTY THOUSAND",
      "3SEVENTY THOUSAND|3EIGHTY THOUSAND|3NINETY THOUSAND|3LAKH|3LAKHAN|2LAKH MARK",
      "2NUMBER KAROR|3KARORAN|3PREFIXED ONE|4TWO|4THREE|4FOUR|4FIVE|4SIX|4SEVEN|4EIGHT|4NINE",
      "2PLACEHOLDER|2FRACTION ONE QUARTER|4HALF|3THREE QUARTERS|2RUPEE MARK",
      "2NUMBER ALTERNATE ONE|4TWO|4TEN THOUSAND|2ALTERNATE LAKH MARK"]),
    (0x1ED01, [
      "OTTOMAN SIYAQ NUMBER ONE|3TWO|3THREE|3FOUR|3FIVE|3SIX|3SEVEN|3EIGHT|3NINE|3TEN|3TWENTY",
      "3THIRTY|3FORTY|3FIFTY|3SIXTY|3SEVENTY|3EIGHTY|3NINETY|3ONE HUNDRED|3TWO HUNDRED",
      "3THREE HUNDRED|3FOUR HUNDRED|3FIVE HUNDRED|3SIX HUNDRED|3SEVEN HUNDRED|3EIGHT HUNDRED",
      "3NINE HUNDRED|3ONE THOUSAND|3TWO THOUSAND|3THREE THOUSAND|3FOUR THOUSAND|3FIVE THOUSAND",
      "3SIX THOUSAND|3SEVEN THOUSAND|3EIGHT THOUSAND|3NINE THOUSAND|3TEN THOUSAND",
      "3TWENTY THOUSAND|3THIRTY THOUSAND|3FORTY THOUSAND|3FIFTY THOUSAND|3SIXTY THOUSAND",
      "3SEVENTY THOUSAND|3EIGHTY THOUSAND|3NINETY THOUSAND|2MARRATAN|2ALTERNATE NUMBER TWO",
      "4THREE|4FOUR|4FIVE|4SIX|4SEVEN|4EIGHT|4NINE|4TEN|4FOUR HUNDRED|4SIX HUNDRED",
      "4TWO THOUSAND|4TEN THOUSAND|2FRACTION ONE HALF|4SIXTH"]),
    (0x1EE00, ["ARABIC MATHEMATICAL ALEF|2BEH|2JEEM|2DAL"]),
    (0x1EE05, [
      "ARABIC MATHEMATICAL WAW|2ZAIN|2HAH|2TAH|2YEH|2KAF|2LAM|2MEEM|2NOON|2SEEN|2AIN|2FEH|2SAD",
      "2QAF|2REH|2SHEEN|2TEH|2THEH|2KHAH|2THAL|2DAD|2ZAH|2GHAIN|2DOTLESS BEH|3NOON|3FEH|3QAF"]),
    (0x1EE21, ["ARABIC MATHEMATICAL INITIAL BEH|3JEEM"]),
    (0x1EE24, ["ARABIC MATHEMATICAL INITIAL HEH"]),
    (0x1EE27, ["ARABIC MATHEMATICAL INITIAL HAH"]),
    (0x1EE29, ["ARABIC MATHEMATICAL INITIAL YEH|3KAF|3LAM|3MEEM|3NOON|3SEEN|3AIN|3FEH|3SAD|3QAF"]),
    (0x1EE34, ["ARABIC MATHEMATICAL INITIAL SHEEN|3TEH|3THEH|3KHAH"]),
    (0x1EE39, ["ARABIC MATHEMATICAL INITIAL DAD"]),
    (0x1EE3B, ["ARABIC MATHEMATICAL INITIAL GHAIN"]),
    (0x1EE42, ["ARABIC MATHEMATICAL TAILED JEEM"]),
    (0x1EE47, ["ARABIC MATHEMATICAL TAILED HAH"]),
    (0x1EE49, ["ARABIC MATHEMATICAL TAILED YEH"]),
    (0x1EE4B, ["ARABIC MATHEMATICAL TAILED LAM"]),
    (0x1EE4D, ["ARABIC MATHEMATICAL TAILED NOON|3SEEN|3AIN"]),
    (0x1EE51, ["ARABIC MATHEMATICAL TAILED SAD|3QAF"]),
    (0x1EE54, ["ARABIC MATHEMATICAL TAILED SHEEN"]),
    (0x1EE57, ["ARABIC MATHEMATICAL TAILED KHAH"]),
    (0x1EE59, ["ARABIC MATHEMATICAL TAILED DAD"]),
    (0x1EE5B, ["ARABIC MATHEMATICAL TAILED GHAIN"]),
    (0x1EE5D, ["ARABIC MATHEMATICAL TAILED DOTLESS NOON"]),
    (0x1EE5F, ["ARABIC MATHEMATICAL TAILED DOTLESS QAF"]),
    (0x1EE61, ["ARABIC MATHEMATICAL STRETCHED BEH|3JEEM"]),
    (0x1EE64, ["ARABIC MATHEMATICAL STRETCHED HEH"]),
    (0x1EE67, ["ARABIC MATHEMATICAL STRETCHED HAH|3TAH|3YEH|3KAF"]),
    (0x1EE6C, ["ARABIC MATHEMATICAL STRETCHED MEEM|3NOON|3SEEN|3AIN|3FEH|3SAD|3QAF"]),
    (0x1EE74, ["ARABIC MATHEMATICAL STRETCHED SHEEN|3TEH|3THEH|3KHAH"]),
    (0x1EE79, ["ARABIC MATHEMATICAL STRETCHED DAD|3ZAH|3GHAIN|3DOTLESS BEH"]),
    (0x1EE7E, ["ARABIC MATHEMATICAL STRETCHED DOTLESS FEH"]),
    (0x1EE80, ["ARABIC MATHEMATICAL LOOPED ALEF|3BEH|3JEEM|3DAL|3HEH|3WAW|3ZAIN|3HAH|3TAH|3YEH"]),
    (0x1EE8B, [
      "ARABIC MATHEMATICAL LOOPED LAM|3MEEM|3NOON|3SEEN|3AIN|3FEH|3SAD|3QAF|3REH|3SHEEN|3TEH",
      "3THEH|3KHAH|3THAL|3DAD|3ZAH|3GHAIN"]),
    (0x1EEA1, ["ARABIC MATHEMATICAL DOUBLE-STRUCK BEH|3JEEM|3DAL"]),
    (0x1EEA5, ["ARABIC MATHEMATICAL DOUBLE-STRUCK WAW|3ZAIN|3HAH|3TAH|3YEH"]),
    (0x1EEAB, [
      "ARABIC MATHEMATICAL DOUBLE-STRUCK LAM|3MEEM|3NOON|3SEEN|3AIN|3FEH|3SAD|3QAF|3REH|3SHEEN",
      "3TEH|3THEH|3KHAH|3THAL|3DAD|3ZAH|3GHAIN"]),
    (0x1EEF0, ["ARABIC MATHEMATICAL OPERATOR MEEM WITH HAH WITH TATWEEL|3HAH WITH DAL"])]

end ReleaseAdvisor.Text
