import ExchangeBoard.Zone.History

/-!
# Known time zones

The zones that exchanges may name.  Each is given by its offset before the first recorded change, the
changes of its offset since the year 2000 as seconds since 1970 and the new offset, and the rule that
holds after the last of them.
-/

namespace ExchangeBoard.Zone

/-! ### Histories -/

/-- The history of the zone `UTC`. -/
def utc : History where
  initial := 0
  changes := []
  tail := .fixed 0

/-- The history of the zone `Etc/UTC`. -/
def etcUTC : History where
  initial := 0
  changes := []
  tail := .fixed 0

/-- The history of the zone `GMT`. -/
def gmt : History where
  initial := 0
  changes := []
  tail := .fixed 0

/-- The history of the zone `Etc/GMT+5`. -/
def etcGMTPlus5 : History where
  initial := -18000
  changes := []
  tail := .fixed (-18000)

/-- The history of the zone `Etc/GMT-14`. -/
def etcGMTMinus14 : History where
  initial := 50400
  changes := []
  tail := .fixed 50400

/-- The history of the zone `EST`. -/
def est : History where
  initial := -18000
  changes := []
  tail := .fixed (-18000)

/-- The history of the zone `US/Eastern`. -/
def usEastern : History where
  initial := -18000
  changes := [
    (954658800, -14400), (972799200, -18000), (986108400, -14400), (1004248800, -18000),
    (1018162800, -14400), (1035698400, -18000), (1049612400, -14400), (1067148000, -18000),
    (1081062000, -14400), (1099202400, -18000), (1112511600, -14400), (1130652000, -18000),
    (1143961200, -14400), (1162101600, -18000), (1173596400, -14400)]
  tail := .seasonal (-18000) (-14400) ⟨3, 2, 0, 7200⟩ ⟨11, 1, 0, 7200⟩

/-- The history of the zone `GB`. -/
def gb : History where
  initial := 0
  changes := []
  tail := .seasonal 0 3600 ⟨3, 5, 0, 3600⟩ ⟨10, 5, 0, 7200⟩

/-- The history of the zone `Asia/Calcutta`. -/
def asiaCalcutta : History where
  initial := 19800
  changes := []
  tail := .fixed 19800

/-- The history of the zone `Australia/Sydney`. -/
def australiaSydney : History where
  initial := 39600
  changes := [
    (954000000, 36000), (967305600, 39600), (985449600, 36000), (1004198400, 39600),
    (1017504000, 36000), (1035648000, 39600), (1048953600, 36000), (1067097600, 39600),
    (1080403200, 36000), (1099152000, 39600), (1111852800, 36000), (1130601600, 39600),
    (1143907200, 36000), (1162051200, 39600), (1174752000, 36000), (1193500800, 39600),
    (1207411200, 36000)]
  tail := .seasonal 36000 39600 ⟨10, 1, 0, 7200⟩ ⟨4, 1, 0, 10800⟩

/-- The history of the zone `Asia/Tokyo`. -/
def asiaTokyo : History where
  initial := 33539
  changes := [
    (-2587712400, 32400)]
  tail := .fixed 32400

/-- The history of the zone `Asia/Shanghai`. -/
def asiaShanghai : History where
  initial := 28800
  changes := []
  tail := .fixed 28800

/-- The history of the zone `Asia/Hong_Kong`. -/
def asiaHongKong : History where
  initial := 28800
  changes := []
  tail := .fixed 28800

/-- The history of the zone `Asia/Singapore`. -/
def asiaSingapore : History where
  initial := 28800
  changes := []
  tail := .fixed 28800

/-- The history of the zone `Asia/Kolkata`. -/
def asiaKolkata : History where
  initial := 19800
  changes := []
  tail := .fixed 19800

/-- The history of the zone `Asia/Dubai`. -/
def asiaDubai : History where
  initial := 14400
  changes := []
  tail := .fixed 14400

/-- The history of the zone `Asia/Riyadh`. -/
def asiaRiyadh : History where
  initial := 10800
  changes := []
  tail := .fixed 10800

/-- The history of the zone `Europe/Moscow`. -/
def europeMoscow : History where
  initial := 10800
  changes := [
    (954025200, 14400), (972774000, 10800), (985474800, 14400), (1004223600, 10800),
    (1017529200, 14400), (1035673200, 10800), (1048978800, 14400), (1067122800, 10800),
    (1080428400, 14400), (1099177200, 10800), (1111878000, 14400), (1130626800, 10800),
    (1143327600, 14400), (1162076400, 10800), (1174777200, 14400), (1193526000, 10800),
    (1206831600, 14400), (1224975600, 10800), (1238281200, 14400), (1256425200, 10800),
    (1269730800, 14400), (1288479600, 10800), (1301180400, 14400), (1414274400, 10800)]
  tail := .fixed 10800

/-- The history of the zone `Africa/Johannesburg`. -/
def africaJohannesburg : History where
  initial := 7200
  changes := []
  tail := .fixed 7200

/-- The history of the zone `Europe/Berlin`. -/
def europeBerlin : History where
  initial := 7200
  changes := []
  tail := .seasonal 3600 7200 ⟨3, 5, 0, 7200⟩ ⟨10, 5, 0, 10800⟩

/-- The history of the zone `Europe/Paris`. -/
def europeParis : History where
  initial := 7200
  changes := []
  tail := .seasonal 3600 7200 ⟨3, 5, 0, 7200⟩ ⟨10, 5, 0, 10800⟩

/-- The history of the zone `Europe/London`. -/
def europeLondon : History where
  initial := -75
  changes := [
    (-3852662325, 0)]
  tail := .seasonal 0 3600 ⟨3, 5, 0, 3600⟩ ⟨10, 5, 0, 7200⟩

/-- The history of the zone `America/Sao_Paulo`. -/
def americaSaoPaulo : History where
  initial := -7200
  changes := [
    (951616800, -10800), (970974000, -7200), (982461600, -10800), (1003028400, -7200),
    (1013911200, -10800), (1036292400, -7200), (1045360800, -10800), (1066532400, -7200),
    (1076810400, -10800), (1099364400, -7200), (1108864800, -10800), (1129431600, -7200),
    (1140314400, -10800), (1162695600, -7200), (1172368800, -10800), (1192330800, -7200),
    (1203213600, -10800), (1224385200, -7200), (1234663200, -10800), (1255834800, -7200),
    (1266717600, -10800), (1287284400, -7200), (1298167200, -10800), (1318734000, -7200),
    (1330221600, -10800), (1350788400, -7200), (1361066400, -10800), (1382238000, -7200),
    (1392516000, -10800), (1413687600, -7200), (1424570400, -10800), (1445137200, -7200),
    (1456020000, -10800), (1476586800, -7200), (1487469600, -10800), (1508036400, -7200),
    (1518919200, -10800), (1541300400, -7200), (1550368800, -10800)]
  tail := .fixed (-10800)

/-- The history of the zone `America/Argentina/Buenos_Aires`. -/
def americaArgentinaBuenosAires : History where
  initial := -10800
  changes := [
    (952052400, -10800), (1198983600, -7200), (1205632800, -10800), (1224385200, -7200),
    (1237082400, -10800)]
  tail := .fixed (-10800)

/-- The history of the zone `America/Toronto`. -/
def americaToronto : History where
  initial := -18000
  changes := [
    (954658800, -14400), (972799200, -18000), (986108400, -14400), (1004248800, -18000),
    (1018162800, -14400), (1035698400, -18000), (1049612400, -14400), (1067148000, -18000),
    (1081062000, -14400), (1099202400, -18000), (1112511600, -14400), (1130652000, -18000),
    (1143961200, -14400), (1162101600, -18000), (1173596400, -14400)]
  tail := .seasonal (-18000) (-14400) ⟨3, 2, 0, 7200⟩ ⟨11, 1, 0, 7200⟩

/-- The history of the zone `America/New_York`. -/
def americaNewYork : History where
  initial := -17762
  changes := [
    (-2717650800, -18000), (954658800, -14400), (972799200, -18000), (986108400, -14400),
    (1004248800, -18000), (1018162800, -14400), (1035698400, -18000), (1049612400, -14400),
    (1067148000, -18000), (1081062000, -14400), (1099202400, -18000), (1112511600, -14400),
    (1130652000, -18000), (1143961200, -14400), (1162101600, -18000), (1173596400, -14400)]
  tail := .seasonal (-18000) (-14400) ⟨3, 2, 0, 7200⟩ ⟨11, 1, 0, 7200⟩

/-- The history of the zone `Australia/Lord_Howe`. -/
def australiaLordHowe : History where
  initial := 39600
  changes := [
    (953996400, 37800), (967303800, 39600), (985446000, 37800), (1004196600, 39600),
    (1017500400, 37800), (1035646200, 39600), (1048950000, 37800), (1067095800, 39600),
    (1080399600, 37800), (1099150200, 39600), (1111849200, 37800), (1130599800, 39600),
    (1143903600, 37800), (1162049400, 39600), (1174748400, 37800), (1193499000, 39600),
    (1207407600, 37800)]
  tail := .seasonal 37800 39600 ⟨10, 1, 0, 7200⟩ ⟨4, 1, 0, 7200⟩

/-- The history of the zone `Asia/Kathmandu`. -/
def asiaKathmandu : History where
  initial := 20700
  changes := []
  tail := .fixed 20700

/-- The history of the zone `America/St_Johns`. -/
def americaStJohns : History where
  initial := -12600
  changes := [
    (954646260, -9000), (972786660, -12600), (986095860, -9000), (1004236260, -12600),
    (1018150260, -9000), (1035685860, -12600), (1049599860, -9000), (1067135460, -12600),
    (1081049460, -9000), (1099189860, -12600), (1112499060, -9000), (1130639460, -12600),
    (1143948660, -9000), (1162089060, -12600), (1173583860, -9000), (1194143460, -12600),
    (1205033460, -9000), (1225593060, -12600), (1236483060, -9000), (1257042660, -12600),
    (1268537460, -9000), (1289097060, -12600), (1299987060, -9000), (1320114600, -9000)]
  tail := .seasonal (-12600) (-9000) ⟨3, 2, 0, 7200⟩ ⟨11, 1, 0, 7200⟩

/-- The history of the zone `Pacific/Chatham`. -/
def pacificChatham : History where
  initial := 49500
  changes := [
    (953388000, 45900), (970322400, 49500), (984837600, 45900), (1002376800, 49500),
    (1016287200, 45900), (1033826400, 49500), (1047736800, 45900), (1065276000, 49500),
    (1079791200, 45900), (1096725600, 49500), (1111240800, 45900), (1128175200, 49500),
    (1142690400, 45900), (1159624800, 49500), (1174140000, 45900), (1191074400, 49500)]
  tail := .seasonal 45900 49500 ⟨9, 5, 0, 9900⟩ ⟨4, 1, 0, 13500⟩

/-- The history of the zone `Pacific/Kiritimati`. -/
def pacificKiritimati : History where
  initial := 50400
  changes := []
  tail := .fixed 50400

/-- The history of the zone `Pacific/Apia`. -/
def pacificApia : History where
  initial := -39600
  changes := [
    (1285498800, -36000), (1301752800, -39600), (1316872800, -36000), (1325239200, 50400),
    (1333202400, 46800), (1348927200, 50400), (1365256800, 46800), (1380376800, 50400),
    (1396706400, 46800), (1411826400, 50400), (1428156000, 46800), (1443276000, 50400),
    (1459605600, 46800), (1474725600, 50400), (1491055200, 46800), (1506175200, 50400),
    (1522504800, 46800), (1538229600, 50400), (1554559200, 46800), (1569679200, 50400),
    (1586008800, 46800), (1601128800, 50400), (1617458400, 46800)]
  tail := .fixed 46800

/-- The history of the zone `Asia/Tehran`. -/
def asiaTehran : History where
  initial := 12600
  changes := [
    (953584200, 16200), (969478200, 12600), (985206600, 16200), (1001100600, 12600),
    (1016742600, 16200), (1032636600, 12600), (1048278600, 16200), (1064172600, 12600),
    (1079814600, 16200), (1095708600, 12600), (1111437000, 16200), (1127331000, 12600),
    (1206045000, 16200), (1221939000, 12600), (1237667400, 16200), (1253561400, 12600),
    (1269203400, 16200), (1285097400, 12600), (1300739400, 16200), (1316633400, 12600),
    (1332275400, 16200), (1348169400, 12600), (1363897800, 16200), (1379791800, 12600),
    (1395433800, 16200), (1411327800, 12600), (1426969800, 16200), (1442863800, 12600),
    (1458505800, 16200), (1474399800, 12600), (1490128200, 16200), (1506022200, 12600),
    (1521664200, 16200), (1537558200, 12600), (1553200200, 16200), (1569094200, 12600),
    (1584736200, 16200), (1600630200, 12600), (1616358600, 16200), (1632252600, 12600),
    (1647894600, 16200), (1663788600, 12600)]
  tail := .fixed 12600

/-- The history of the zone `Europe/Dublin`. -/
def europeDublin : History where
  initial := 3600
  changes := []
  tail := .seasonal 3600 0 ⟨10, 5, 0, 7200⟩ ⟨3, 5, 0, 3600⟩

/-- The history of the zone `Europe/Istanbul`. -/
def europeIstanbul : History where
  initial := 7200
  changes := [
    (954025200, 10800), (972774000, 7200), (985474800, 10800), (1004223600, 7200),
    (1017529200, 10800), (1035673200, 7200), (1048978800, 10800), (1067122800, 7200),
    (1080428400, 10800), (1099177200, 7200), (1111878000, 10800), (1130626800, 7200),
    (1143327600, 10800), (1162076400, 7200), (1174784400, 10800), (1193533200, 7200),
    (1206838800, 10800), (1224982800, 7200), (1238288400, 10800), (1256432400, 7200),
    (1269738000, 10800), (1288486800, 7200), (1301274000, 10800), (1319936400, 7200),
    (1332637200, 10800), (1351386000, 7200), (1364691600, 10800), (1382835600, 7200),
    (1396227600, 10800), (1414285200, 7200), (1427590800, 10800), (1446944400, 7200),
    (1459040400, 10800), (1473195600, 10800)]
  tail := .fixed 10800

/-- The history of the zone `America/Nuuk`. -/
def americaNuuk : History where
  initial := -10800
  changes := [
    (954032400, -7200), (972781200, -10800), (985482000, -7200), (1004230800, -10800),
    (1017536400, -7200), (1035680400, -10800), (1048986000, -7200), (1067130000, -10800),
    (1080435600, -7200), (1099184400, -10800), (1111885200, -7200), (1130634000, -10800),
    (1143334800, -7200), (1162083600, -10800), (1174784400, -7200), (1193533200, -10800),
    (1206838800, -7200), (1224982800, -10800), (1238288400, -7200), (1256432400, -10800),
    (1269738000, -7200), (1288486800, -10800), (1301187600, -7200), (1319936400, -10800),
    (1332637200, -7200), (1351386000, -10800), (1364691600, -7200), (1382835600, -10800),
    (1396141200, -7200), (1414285200, -10800), (1427590800, -7200), (1445734800, -10800),
    (1459040400, -7200), (1477789200, -10800), (1490490000, -7200), (1509238800, -10800),
    (1521939600, -7200), (1540688400, -10800), (1553994000, -7200), (1572138000, -10800),
    (1585443600, -7200), (1603587600, -10800), (1616893200, -7200), (1635642000, -10800),
    (1648342800, -7200), (1667091600, -10800), (1679792400, -7200), (1698541200, -7200)]
  tail := .seasonal (-7200) (-3600) ⟨3, 5, 0, -3600⟩ ⟨10, 5, 0, 0⟩

/-- The history of the zone `Antarctica/Troll`. -/
def antarcticaTroll : History where
  initial := 0
  changes := [
    (1108166400, 0)]
  tail := .seasonal 0 7200 ⟨3, 5, 0, 3600⟩ ⟨10, 5, 0, 10800⟩

/-- The history of the zone `Pacific/Honolulu`. -/
def pacificHonolulu : History where
  initial := -36000
  changes := []
  tail := .fixed (-36000)

/-- The history of the zone `Africa/Casablanca`. -/
def africaCasablanca : History where
  initial := 0
  changes := [
    (1212278400, 3600), (1220223600, 0), (1243814400, 3600), (1250809200, 0), (1272758400, 3600),
    (1281222000, 0), (1301788800, 3600), (1312066800, 0), (1335664800, 3600), (1342749600, 0),
    (1345428000, 3600), (1348970400, 0), (1367114400, 3600), (1373162400, 0), (1376100000, 3600),
    (1382839200, 0), (1396144800, 3600), (1403920800, 0), (1406944800, 3600), (1414288800, 0),
    (1427594400, 3600), (1434247200, 0), (1437271200, 3600), (1445738400, 0), (1459044000, 3600),
    (1465092000, 0), (1468116000, 3600), (1477792800, 0), (1490493600, 3600), (1495332000, 0),
    (1498960800, 3600), (1509242400, 0), (1521943200, 3600), (1526176800, 0), (1529200800, 3600),
    (1540692000, 3600), (1557021600, 0), (1560045600, 3600), (1587261600, 0), (1590890400, 3600),
    (1618106400, 0), (1621130400, 3600), (1648346400, 0), (1651975200, 3600), (1679191200, 0),
    (1682215200, 3600), (1710036000, 0), (1713060000, 3600), (1740276000, 0), (1743904800, 3600),
    (1771120800, 0), (1774144800, 3600), (1801965600, 0), (1804989600, 3600), (1832205600, 0),
    (1835834400, 3600), (1863050400, 0), (1866074400, 3600), (1893290400, 0), (1896919200, 3600),
    (1924135200, 0), (1927159200, 3600), (1954980000, 0), (1958004000, 3600), (1985220000, 0),
    (1988848800, 3600), (2016064800, 0), (2019088800, 3600), (2046304800, 0), (2049933600, 3600),
    (2077149600, 0), (2080778400, 3600), (2107994400, 0), (2111018400, 3600), (2138234400, 0),
    (2141863200, 3600), (2169079200, 0), (2172103200, 3600), (2199924000, 0), (2202948000, 3600),
    (2230164000, 0), (2233792800, 3600), (2261008800, 0), (2264032800, 3600), (2291248800, 0),
    (2294877600, 3600), (2322093600, 0), (2325722400, 3600), (2352938400, 0), (2355962400, 3600),
    (2383178400, 0), (2386807200, 3600), (2414023200, 0), (2417047200, 3600), (2444868000, 0),
    (2447892000, 3600), (2475108000, 0), (2478736800, 3600), (2505952800, 0), (2508976800, 3600),
    (2536192800, 0), (2539821600, 3600), (2567037600, 0), (2570666400, 3600), (2597882400, 0),
    (2600906400, 3600), (2628122400, 0), (2631751200, 3600), (2658967200, 0), (2661991200, 3600),
    (2689812000, 0), (2692836000, 3600), (2720052000, 0), (2723680800, 3600), (2750896800, 0),
    (2753920800, 3600), (2781136800, 0), (2784765600, 3600), (2811981600, 0), (2815610400, 3600),
    (2842826400, 0), (2845850400, 3600), (2873066400, 0), (2876695200, 3600), (2903911200, 0),
    (2906935200, 3600), (2934756000, 0), (2937780000, 3600), (2964996000, 0), (2968624800, 3600),
    (2995840800, 0), (2998864800, 3600), (3026080800, 0), (3029709600, 3600), (3056925600, 0),
    (3060554400, 3600), (3087770400, 0), (3090794400, 3600), (3118010400, 0), (3121639200, 3600),
    (3148855200, 0), (3151879200, 3600), (3179700000, 0), (3182724000, 3600), (3209940000, 0),
    (3213568800, 3600), (3240784800, 0), (3243808800, 3600), (3271024800, 0), (3274653600, 3600),
    (3301869600, 0), (3305498400, 3600), (3332714400, 0), (3335738400, 3600), (3362954400, 0),
    (3366583200, 3600), (3393799200, 0), (3396823200, 3600), (3424644000, 0), (3427668000, 3600),
    (3454884000, 0), (3458512800, 3600), (3485728800, 0), (3488752800, 3600), (3515968800, 0),
    (3519597600, 3600), (3546813600, 0), (3549837600, 3600), (3577658400, 0), (3580682400, 3600),
    (3607898400, 0), (3611527200, 3600), (3638743200, 0), (3641767200, 3600), (3669588000, 0),
    (3672612000, 3600), (3699828000, 0), (3703456800, 3600)]
  tail := .fixed 3600

/-! ### Names -/

/-- The names of the known zones with their histories. -/
def known : List (String × History) := [
  ("UTC", utc), ("Etc/UTC", etcUTC), ("GMT", gmt), ("Etc/GMT+5", etcGMTPlus5),
  ("Etc/GMT-14", etcGMTMinus14), ("EST", est), ("US/Eastern", usEastern), ("GB", gb),
  ("Asia/Calcutta", asiaCalcutta), ("Australia/Sydney", australiaSydney),
  ("Asia/Tokyo", asiaTokyo), ("Asia/Shanghai", asiaShanghai), ("Asia/Hong_Kong", asiaHongKong),
  ("Asia/Singapore", asiaSingapore), ("Asia/Kolkata", asiaKolkata), ("Asia/Dubai", asiaDubai),
  ("Asia/Riyadh", asiaRiyadh), ("Europe/Moscow", europeMoscow),
  ("Africa/Johannesburg", africaJohannesburg), ("Europe/Berlin", europeBerlin),
  ("Europe/Paris", europeParis), ("Europe/London", europeLondon),
  ("America/Sao_Paulo", americaSaoPaulo),
  ("America/Argentina/Buenos_Aires", americaArgentinaBuenosAires),
  ("America/Toronto", americaToronto), ("America/New_York", americaNewYork),
  ("Australia/Lord_Howe", australiaLordHowe), ("Asia/Kathmandu", asiaKathmandu),
  ("America/St_Johns", americaStJohns), ("Pacific/Chatham", pacificChatham),
  ("Pacific/Kiritimati", pacificKiritimati), ("Pacific/Apia", pacificApia),
  ("Asia/Tehran", asiaTehran), ("Europe/Dublin", europeDublin),
  ("Europe/Istanbul", europeIstanbul), ("America/Nuuk", americaNuuk),
  ("Antarctica/Troll", antarcticaTroll), ("Pacific/Honolulu", pacificHonolulu),
  ("Africa/Casablanca", africaCasablanca)]

end ExchangeBoard.Zone
