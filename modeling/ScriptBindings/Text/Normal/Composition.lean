/-!
# Composition of characters

The characters that two others are put together to. Hangul syllables follow a rule of their own and
are not in the table.
-/

namespace ScriptBindings.Text.Normal

/-- For every second character, the first characters that it is put together with, each followed by
what becomes of the two. -/
def compositions : List (Char × String) :=
  [('\u0300', "AÀEÈIÌNǸOÒUÙWẀYỲaàeèiìnǹoòuùwẁyỳ\u00A8\u1FEDÂẦÊỀÔỒÜǛâầêềôồüǜĂẰăằĒḔēḕŌṐōṑƠỜơờƯỪưừ" ++
    "ΑᾺΕῈΗῊΙῚΟῸΥῪΩῺαὰεὲηὴιὶοὸυὺωὼϊῒϋῢЕЀИЍеѐиѝἀἂἁἃἈἊἉἋἐἒἑἓἘἚἙἛἠἢἡἣἨἪἩἫἰἲἱἳἸἺἹἻὀὂὁὃὈὊὉὋ" ++
    "ὐὒὑὓὙὛὠὢὡὣὨὪὩὫ\u1FBF\u1FCD\u1FFE\u1FDD"),
   ('\u0301', "AÁCĆEÉGǴIÍKḰLĹMḾNŃOÓPṔRŔSŚUÚWẂYÝZŹaácćeégǵiíkḱlĺmḿnńoópṕrŕsśuúwẃyýzź\u00A8\u0385" ++
    "ÂẤÅǺÆǼÇḈÊẾÏḮÔỐÕṌØǾÜǗâấåǻæǽçḉêếïḯôốõṍøǿüǘĂẮăắĒḖēḗŌṒōṓŨṸũṹƠỚơớƯỨưứΑΆΕΈΗΉΙΊΟΌΥΎΩΏαά" ++
    "εέηήιίοόυύωώϊΐϋΰϒϓГЃКЌгѓкќἀἄἁἅἈἌἉἍἐἔἑἕἘἜἙἝἠἤἡἥἨἬἩἭἰἴἱἵἸἼἹἽὀὄὁὅὈὌὉὍὐὔὑὕὙὝὠὤὡὥὨὬὩὭ" ++
    "\u1FBF\u1FCE\u1FFE\u1FDE"),
   ('\u0302', "AÂCĈEÊGĜHĤIÎJĴOÔSŜUÛWŴYŶZẐaâcĉeêgĝhĥiîjĵoôsŝuûwŵyŷzẑẠẬạậẸỆẹệỌỘọộ"),
   ('\u0303', "AÃEẼIĨNÑOÕUŨVṼYỸaãeẽiĩnñoõuũvṽyỹÂẪÊỄÔỖâẫêễôỗĂẴăẵƠỠơỡƯỮưữ"),
   ('\u0304', "AĀEĒGḠIĪOŌUŪYȲaāeēgḡiīoōuūyȳÄǞÆǢÕȬÖȪÜǕäǟæǣõȭöȫüǖǪǬǫǭȦǠȧǡȮȰȯȱΑᾹΙῙΥῩαᾱιῑυῡИӢУӮиӣуӯ" ++
    "ḶḸḷḹṚṜṛṝ"),
   ('\u0306', "AĂEĔGĞIĬOŎUŬaăeĕgğiĭoŏuŭȨḜȩḝΑᾸΙῘΥῨαᾰιῐυῠАӐЕӖЖӁИЙУЎаӑеӗжӂийуўẠẶạặ"),
   ('\u0307', "AȦBḂCĊDḊEĖFḞGĠHḢIİMṀNṄOȮPṖRṘSṠTṪWẆXẊYẎZŻaȧbḃcċdḋeėfḟgġhḣmṁnṅoȯpṗrṙsṡtṫwẇxẋyẏzżŚṤ" ++
    "śṥŠṦšṧſẛṢṨṣṩ"),
   ('\u0308', "AÄEËHḦIÏOÖUÜWẄXẌYŸaäeëhḧiïoötẗuüwẅxẍyÿÕṎõṏŪṺūṻΙΪΥΫιϊυϋϒϔІЇАӒЕЁЖӜЗӞИӤОӦУӰЧӴЫӸЭӬаӓ" ++
    "еёжӝзӟиӥоӧуӱчӵыӹэӭіїӘӚәӛӨӪөӫ"),
   ('\u0309', "AẢEẺIỈOỎUỦYỶaảeẻiỉoỏuủyỷÂẨÊỂÔỔâẩêểôổĂẲăẳƠỞơởƯỬưử"),
   ('\u030A', "AÅUŮaåuůwẘyẙ"),
   ('\u030B', "OŐUŰoőuűУӲуӳ"),
   ('\u030C', "AǍCČDĎEĚGǦHȞIǏKǨLĽNŇOǑRŘSŠTŤUǓZŽaǎcčdďeěgǧhȟiǐjǰkǩlľnňoǒrřsštťuǔzžÜǙüǚƷǮʒǯ"),
   ('\u030F', "AȀEȄIȈOȌRȐUȔaȁeȅiȉoȍrȑuȕѴѶѵѷ"),
   ('\u0311', "AȂEȆIȊOȎRȒUȖaȃeȇiȋoȏrȓuȗ"),
   ('\u0313', "ΑἈΕἘΗἨΙἸΟὈΩὨαἀεἐηἠιἰοὀρῤυὐωὠ"),
   ('\u0314', "ΑἉΕἙΗἩΙἹΟὉΡῬΥὙΩὩαἁεἑηἡιἱοὁρῥυὑωὡ"),
   ('\u031B', "OƠUƯoơuư"),
   ('\u0323', "AẠBḄDḌEẸHḤIỊKḲLḶMṂNṆOỌRṚSṢTṬUỤVṾWẈYỴZẒaạbḅdḍeẹhḥiịkḳlḷmṃnṇoọrṛsṣtṭuụvṿwẉyỵzẓƠỢơợ" ++
    "ƯỰưự"),
   ('\u0324', "UṲuṳ"),
   ('\u0325', "AḀaḁ"),
   ('\u0326', "SȘTȚsștț"),
   ('\u0327', "CÇDḐEȨGĢHḨKĶLĻNŅRŖSŞTŢcçdḑeȩgģhḩkķlļnņrŗsştţ"),
   ('\u0328', "AĄEĘIĮOǪUŲaąeęiįoǫuų"),
   ('\u032D', "DḒEḘLḼNṊTṰUṶdḓeḙlḽnṋtṱuṷ"),
   ('\u032E', "HḪhḫ"),
   ('\u0330', "EḚIḬUṴeḛiḭuṵ"),
   ('\u0331', "BḆDḎKḴLḺNṈRṞTṮZẔbḇdḏhẖkḵlḻnṉrṟtṯzẕ"),
   ('\u0338', "<≮=≠>≯←↚→↛↔↮⇐⇍⇒⇏⇔⇎∃∄∈∉∋∌∣∤∥∦∼≁≃≄≅≇≈≉≍≭≡≢≤≰≥≱≲≴≳≵≶≸≷≹≺⊀≻⊁≼⋠≽⋡⊂⊄⊃⊅⊆⊈⊇⊉⊑⋢⊒⋣⊢⊬⊨⊭⊩⊮⊫⊯" ++
    "⊲⋪⊳⋫⊴⋬⊵⋭"),
   ('\u0342', "\u00A8\u1FC1αᾶηῆιῖυῦωῶϊῗϋῧἀἆἁἇἈἎἉἏἠἦἡἧἨἮἩἯἰἶἱἷἸἾἹἿὐὖὑὗὙὟὠὦὡὧὨὮὩὯ\u1FBF\u1FCF" ++
    "\u1FFE\u1FDF"),
   ('\u0345', "ΑᾼΗῌΩῼάᾴήῄαᾳηῃωῳώῴἀᾀἁᾁἂᾂἃᾃἄᾄἅᾅἆᾆἇᾇἈᾈἉᾉἊᾊἋᾋἌᾌἍᾍἎᾎἏᾏἠᾐἡᾑἢᾒἣᾓἤᾔἥᾕἦᾖἧᾗἨᾘἩᾙἪᾚἫᾛἬᾜἭᾝἮᾞ" ++
    "ἯᾟὠᾠὡᾡὢᾢὣᾣὤᾤὥᾥὦᾦὧᾧὨᾨὩᾩὪᾪὫᾫὬᾬὭᾭὮᾮὯᾯὰᾲὴῂὼῲᾶᾷῆῇῶῷ"),
   ('\u0653', "\u0627\u0622"),
   ('\u0654', "\u0627\u0623\u0648\u0624\u064A\u0626\u06C1\u06C2\u06D2\u06D3\u06D5\u06C0"),
   ('\u0655', "\u0627\u0625"),
   ('\u093C', "नऩरऱळऴ"),
   ('\u09BE', "\u09C7\u09CB"),
   ('\u09D7', "\u09C7\u09CC"),
   ('\u0B3E', "\u0B47\u0B4B"),
   ('\u0B56', "\u0B47\u0B48"),
   ('\u0B57', "\u0B47\u0B4C"),
   ('\u0BBE', "\u0BC6\u0BCA\u0BC7\u0BCB"),
   ('\u0BD7', "ஒஔ\u0BC6\u0BCC"),
   ('\u0C56', "\u0C46\u0C48"),
   ('\u0CC2', "\u0CC6\u0CCA"),
   ('\u0CD5', "\u0CBF\u0CC0\u0CC6\u0CC7\u0CCA\u0CCB"),
   ('\u0CD6', "\u0CC6\u0CC8"),
   ('\u0D3E', "\u0D46\u0D4A\u0D47\u0D4B"),
   ('\u0D57', "\u0D46\u0D4C"),
   ('\u0DCA', "\u0DD9\u0DDA\u0DDC\u0DDD"),
   ('\u0DCF', "\u0DD9\u0DDC"),
   ('\u0DDF', "\u0DD9\u0DDE"),
   ('\u102E', "ဥဦ"),
   ('\u1B35', "ᬅᬆᬇᬈᬉᬊᬋᬌᬍᬎᬑᬒ\u1B3A\u1B3B\u1B3C\u1B3D\u1B3E\u1B40\u1B3F\u1B41\u1B42\u1B43"),
   ('\u3099', "うゔかがきぎくぐけげこごさざしじすずせぜそぞただちぢつづてでとどはばひびふぶへべほぼゝゞウヴカガキギクグケゲコゴサザシジスズセゼソゾタダチヂツヅテデトドハバヒビ" ++
    "フブヘベホボワヷヰヸヱヹヲヺヽヾ"),
   ('\u309A', "はぱひぴふぷへぺほぽハパヒピフプヘペホポ"),
   ('𑂺', "𑂙𑂚𑂛𑂜𑂥𑂫"),
   ('𑄧', "𑄱𑄮𑄲𑄯"),
   ('𑌾', "𑍇𑍋"),
   ('𑍗', "𑍇𑍌"),
   ('𑒰', "𑒹𑒼"),
   ('𑒺', "𑒹𑒻"),
   ('𑒽', "𑒹𑒾"),
   ('𑖯', "𑖸𑖺𑖹𑖻"),
   ('𑤰', "𑤵𑤸")]

/-- The character behind the first one that stands at an even place. -/
def following? (c : Char) : List Char → Option Char
  | first :: result :: rest => if first = c then some result else following? c rest
  | _ => none

/-- What becomes of two characters that are put together. -/
def composed? (c d : Char) : Option Char :=
  (compositions.lookup d).bind fun pairs => following? c pairs.toList

end ScriptBindings.Text.Normal
