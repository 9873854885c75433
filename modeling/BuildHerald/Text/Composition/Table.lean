namespace BuildHerald.Text.Composition

/-- For each character that others can be composed with: those others, each with the character that is
composed. -/
def composed : List (Char × String) :=
  [(Char.ofNat 0x300, "AÀEÈIÌNǸOÒUÙWẀYỲaàeèiìnǹoòuùwẁyỳ¨῭ÂẦÊỀÔỒÜǛâầêềôồüǜĂẰăằĒḔēḕŌṐōṑƠỜơờƯỪưừΑᾺ
ΕῈΗῊΙῚΟῸΥῪΩῺαὰεὲηὴιὶοὸυὺωὼϊῒϋῢЕЀИЍеѐиѝἀἂἁἃἈἊἉἋἐἒἑἓἘἚἙἛἠἢἡἣἨἪἩἫἰἲἱἳἸἺἹἻὀὂ
ὁὃὈὊὉὋὐὒὑὓὙὛὠὢὡὣὨὪὩὫ᾿῍῾῝"),
   (Char.ofNat 0x301, "AÁCĆEÉGǴIÍKḰLĹMḾNŃOÓPṔRŔSŚUÚWẂYÝZŹaácćeégǵiíkḱlĺmḿnńoópṕrŕsśuúwẃyýzź¨΅ÂẤ
ÅǺÆǼÇḈÊẾÏḮÔỐÕṌØǾÜǗâấåǻæǽçḉêếïḯôốõṍøǿüǘĂẮăắĒḖēḗŌṒōṓŨṸũṹƠỚơớƯỨưứΑΆΕΈΗΉΙΊΟΌ
ΥΎΩΏαάεέηήιίοόυύωώϊΐϋΰϒϓГЃКЌгѓкќἀἄἁἅἈἌἉἍἐἔἑἕἘἜἙἝἠἤἡἥἨἬἩἭἰἴἱἵἸἼἹἽὀὄὁὅὈὌὉὍ
ὐὔὑὕὙὝὠὤὡὥὨὬὩὭ᾿῎῾῞"),
   (Char.ofNat 0x302, "AÂCĈEÊGĜHĤIÎJĴOÔSŜUÛWŴYŶZẐaâcĉeêgĝhĥiîjĵoôsŝuûwŵyŷzẑẠẬạậẸỆẹệỌỘọộ"),
   (Char.ofNat 0x303, "AÃEẼIĨNÑOÕUŨVṼYỸaãeẽiĩnñoõuũvṽyỹÂẪÊỄÔỖâẫêễôỗĂẴăẵƠỠơỡƯỮưữ"),
   (Char.ofNat 0x304, "AĀEĒGḠIĪOŌUŪYȲaāeēgḡiīoōuūyȳÄǞÆǢÕȬÖȪÜǕäǟæǣõȭöȫüǖǪǬǫǭȦǠȧǡȮȰȯȱΑᾹΙῙΥῩαᾱιῑυῡ
ИӢУӮиӣуӯḶḸḷḹṚṜṛṝ"),
   (Char.ofNat 0x306, "AĂEĔGĞIĬOŎUŬaăeĕgğiĭoŏuŭȨḜȩḝΑᾸΙῘΥῨαᾰιῐυῠАӐЕӖЖӁИЙУЎаӑеӗжӂийуўẠẶạặ"),
   (Char.ofNat 0x307, "AȦBḂCĊDḊEĖFḞGĠHḢIİMṀNṄOȮPṖRṘSṠTṪWẆXẊYẎZŻaȧbḃcċdḋeėfḟgġhḣmṁnṅoȯpṗrṙsṡtṫwẇ
xẋyẏzżŚṤśṥŠṦšṧſẛṢṨṣṩ𐗒𐗉𐗚𐗤"),
   (Char.ofNat 0x308, "AÄEËHḦIÏOÖUÜWẄXẌYŸaäeëhḧiïoötẗuüwẅxẍyÿÕṎõṏŪṺūṻΙΪΥΫιϊυϋϒϔІЇАӒЕЁЖӜЗӞИӤОӦУӰ
ЧӴЫӸЭӬаӓеёжӝзӟиӥоӧуӱчӵыӹэӭіїӘӚәӛӨӪөӫ"),
   (Char.ofNat 0x309, "AẢEẺIỈOỎUỦYỶaảeẻiỉoỏuủyỷÂẨÊỂÔỔâẩêểôổĂẲăẳƠỞơởƯỬưử"),
   (Char.ofNat 0x30a, "AÅUŮaåuůwẘyẙ"),
   (Char.ofNat 0x30b, "OŐUŰoőuűУӲуӳ"),
   (Char.ofNat 0x30c, "AǍCČDĎEĚGǦHȞIǏKǨLĽNŇOǑRŘSŠTŤUǓZŽaǎcčdďeěgǧhȟiǐjǰkǩlľnňoǒrřsštťuǔzžÜǙüǚƷǮ
ʒǯ"),
   (Char.ofNat 0x30f, "AȀEȄIȈOȌRȐUȔaȁeȅiȉoȍrȑuȕѴѶѵѷ"),
   (Char.ofNat 0x311, "AȂEȆIȊOȎRȒUȖaȃeȇiȋoȏrȓuȗ"),
   (Char.ofNat 0x313, "ΑἈΕἘΗἨΙἸΟὈΩὨαἀεἐηἠιἰοὀρῤυὐωὠ"),
   (Char.ofNat 0x314, "ΑἉΕἙΗἩΙἹΟὉΡῬΥὙΩὩαἁεἑηἡιἱοὁρῥυὑωὡ"),
   (Char.ofNat 0x31b, "OƠUƯoơuư"),
   (Char.ofNat 0x323, "AẠBḄDḌEẸHḤIỊKḲLḶMṂNṆOỌRṚSṢTṬUỤVṾWẈYỴZẒaạbḅdḍeẹhḥiịkḳlḷmṃnṇoọrṛsṣtṭuụvṿwẉ
yỵzẓƠỢơợƯỰưự"),
   (Char.ofNat 0x324, "UṲuṳ"),
   (Char.ofNat 0x325, "AḀaḁ"),
   (Char.ofNat 0x326, "SȘTȚsștț"),
   (Char.ofNat 0x327, "CÇDḐEȨGĢHḨKĶLĻNŅRŖSŞTŢcçdḑeȩgģhḩkķlļnņrŗsştţ"),
   (Char.ofNat 0x328, "AĄEĘIĮOǪUŲaąeęiįoǫuų"),
   (Char.ofNat 0x32d, "DḒEḘLḼNṊTṰUṶdḓeḙlḽnṋtṱuṷ"),
   (Char.ofNat 0x32e, "HḪhḫ"),
   (Char.ofNat 0x330, "EḚIḬUṴeḛiḭuṵ"),
   (Char.ofNat 0x331, "BḆDḎKḴLḺNṈRṞTṮZẔbḇdḏhẖkḵlḻnṉrṟtṯzẕ"),
   (Char.ofNat 0x338, "<≮=≠>≯←↚→↛↔↮⇐⇍⇒⇏⇔⇎∃∄∈∉∋∌∣∤∥∦∼≁≃≄≅≇≈≉≍≭≡≢≤≰≥≱≲≴≳≵≶≸≷≹≺⊀≻⊁≼⋠≽⋡⊂⊄⊃⊅⊆⊈⊇⊉⊑⋢⊒⋣
⊢⊬⊨⊭⊩⊮⊫⊯⊲⋪⊳⋫⊴⋬⊵⋭"),
   (Char.ofNat 0x342, "¨῁αᾶηῆιῖυῦωῶϊῗϋῧἀἆἁἇἈἎἉἏἠἦἡἧἨἮἩἯἰἶἱἷἸἾἹἿὐὖὑὗὙὟὠὦὡὧὨὮὩὯ᾿῏῾῟"),
   (Char.ofNat 0x345, "ΑᾼΗῌΩῼάᾴήῄαᾳηῃωῳώῴἀᾀἁᾁἂᾂἃᾃἄᾄἅᾅἆᾆἇᾇἈᾈἉᾉἊᾊἋᾋἌᾌἍᾍἎᾎἏᾏἠᾐἡᾑἢᾒἣᾓἤᾔἥᾕἦᾖἧᾗἨᾘἩᾙἪᾚ
ἫᾛἬᾜἭᾝἮᾞἯᾟὠᾠὡᾡὢᾢὣᾣὤᾤὥᾥὦᾦὧᾧὨᾨὩᾩὪᾪὫᾫὬᾬὭᾭὮᾮὯᾯὰᾲὴῂὼῲᾶᾷῆῇῶῷ"),
   (Char.ofNat 0x653, "اآ"),
   (Char.ofNat 0x654, "اأوؤيئہۂےۓەۀ"),
   (Char.ofNat 0x655, "اإ"),
   (Char.ofNat 0x93c, "नऩरऱळऴ"),
   (Char.ofNat 0x9be, "েো"),
   (Char.ofNat 0x9d7, "েৌ"),
   (Char.ofNat 0xb3e, "େୋ"),
   (Char.ofNat 0xb56, "େୈ"),
   (Char.ofNat 0xb57, "େୌ"),
   (Char.ofNat 0xbbe, "ெொேோ"),
   (Char.ofNat 0xbd7, "ஒஔெௌ"),
   (Char.ofNat 0xc56, "ెై"),
   (Char.ofNat 0xcc2, "ೆೊ"),
   (Char.ofNat 0xcd5, "ಿೀೆೇೊೋ"),
   (Char.ofNat 0xcd6, "ೆೈ"),
   (Char.ofNat 0xd3e, "െൊേോ"),
   (Char.ofNat 0xd57, "െൌ"),
   (Char.ofNat 0xdca, "ෙේොෝ"),
   (Char.ofNat 0xdcf, "ෙො"),
   (Char.ofNat 0xddf, "ෙෞ"),
   (Char.ofNat 0x102e, "ဥဦ"),
   (Char.ofNat 0x1b35, "ᬅᬆᬇᬈᬉᬊᬋᬌᬍᬎᬑᬒᬺᬻᬼᬽᬾᭀᬿᭁᭂᭃ"),
   (Char.ofNat 0x3099, "うゔかがきぎくぐけげこごさざしじすずせぜそぞただちぢつづてでとどはばひびふぶへべほぼゝゞウヴカガキギクグケゲコゴサザシジスズセゼソゾタダチヂツヅ
テデトドハバヒビフブヘベホボワヷヰヸヱヹヲヺヽヾ"),
   (Char.ofNat 0x309a, "はぱひぴふぷへぺほぽハパヒピフプヘペホポ"),
   (Char.ofNat 0x110ba, "𑂙𑂚𑂛𑂜𑂥𑂫"),
   (Char.ofNat 0x11127, "𑄱𑄮𑄲𑄯"),
   (Char.ofNat 0x1133e, "𑍇𑍋"),
   (Char.ofNat 0x11357, "𑍇𑍌"),
   (Char.ofNat 0x113b8, "𑏅𑎸"),
   (Char.ofNat 0x113bb, "𑎄𑎅"),
   (Char.ofNat 0x113c2, "𑎋𑎎𑏅𑏂"),
   (Char.ofNat 0x113c9, "𑎂𑎃𑎐𑎑𑏅𑏉"),
   (Char.ofNat 0x114b0, "𑒹𑒼"),
   (Char.ofNat 0x114ba, "𑒹𑒻"),
   (Char.ofNat 0x114bd, "𑒹𑒾"),
   (Char.ofNat 0x115af, "𑖸𑖺𑖹𑖻"),
   (Char.ofNat 0x11930, "𑤵𑤸"),
   (Char.ofNat 0x1611e, "𖄡𖄞"),
   (Char.ofNat 0x1611f, "𖄦𖄡𖄦𖄢𖄧𖄩𖄤"),
   (Char.ofNat 0x16120, "𖄨𖄡𖄨"),
   (Char.ofNat 0x16129, "𖄡𖄩"),
   (Char.ofNat 0x16d67, "𖵣𖵪𖵨𖵩𖵪")]

end BuildHerald.Text.Composition
