/-!
The names of characters that begin with the letters D to L, word by word.
-/

namespace FactIntake.Text.CharacterNames

def letterD : String := "
  DAGGER(. KNIFE WITH(LEFT(GUARD) RIGHT(GUARD))) DALET(SYMBOL) DANCER DANGO DARK(SHADE
  SUNGLASSES) DASH(SYMBOL WITH(LEFT(UPTURN))) DASHED(LOW(LINE) OVERLINE
  TRIANGLE-HEADED(RIGHTWARDS(ARROW))) DATA(LINK(ESCAPE)) DC1 DC2 DC3 DC4 DCS DEAF(PERSON)
  DECIDUOUS(TREE) DECIMAL(EXPONENT(SYMBOL) SEPARATOR(KEY(SYMBOL))) DECREASE(FONT(SIZE(SYMBOL)))
  DEER DEGREE(CELSIUS FAHRENHEIT SIGN) DEL DELETE DELIVERY(TRUCK) DELTA(EQUAL(TO))
  DENTISTRY(SYMBOL(LIGHT(DOWN(AND(HORIZONTAL(. WITH(CIRCLE TRIANGLE WAVE))))
  UP(AND(HORIZONTAL(. WITH(CIRCLE TRIANGLE WAVE)))) VERTICAL(AND(BOTTOM(LEFT RIGHT) TOP(LEFT
  RIGHT) WAVE) WITH(CIRCLE TRIANGLE))))) DEPARTMENT(STORE) DERELICT(HOUSE(BUILDING))
  DESCENDING(NODE) DESERET(CAPITAL(LETTER(AY BEE CHEE DEE EF EL EM EN ENG ER ES ESH ETH EW GAY
  H JEE KAY LONG(A AH E I O OO) OI OW PEE SHORT(A AH E I O OO) TEE THEE VEE WU YEE ZEE ZHEE))
  SMALL(LETTER(AY BEE CHEE DEE EF EL EM EN ENG ER ES ESH ETH EW GAY H JEE KAY LONG(A AH E I O
  OO) OI OW PEE SHORT(A AH E I O OO) TEE THEE VEE WU YEE ZEE ZHEE))) DESERT(. ISLAND)
  DESKTOP(COMPUTER WINDOW) DEVANAGARI(ABBREVIATION(SIGN) ACUTE(ACCENT) CARET DANDA DIGIT(EIGHT
  FIVE FOUR NINE ONE SEVEN SIX THREE TWO ZERO) DOUBLE(DANDA) GAP(FILLER) GRAVE(ACCENT)
  HEADSTROKE JAIN(OM) LETTER(A AA AI AU AW AY BA BBA BHA CA CANDRA(A E O) CHA DA DDA DDDA DDDHA
  DDHA DHA E FA GA GGA GHA GHHA GLOTTAL(STOP) HA HEAVY(YA) I II JA JHA JJA KA KHA KHHA LA LLA
  LLLA MA MARWARI(DDA) NA NGA NNA NNNA NYA O OE OOE PA PHA QA RA RHA RRA SA SHA SHORT(A E O)
  SSA TA THA TTA TTHA U UE UU UUE VA VOCALIC(L LL R RR) YA YYA ZA ZHA) OM SIGN(ANUSVARA
  AVAGRAHA CANDRABINDU(. AVAGRAHA THREE TWO VIRAMA) DOUBLE(CANDRABINDU(VIRAMA))
  HIGH(SPACING(DOT)) INVERTED(CANDRABINDU) NUKTA PUSHPIKA SIDDHAM SPACING(CANDRABINDU) VIRAMA
  VISARGA) STRESS(SIGN(ANUDATTA UDATTA)) VOWEL(SIGN(AA AI AU AW AY CANDRA(E LONG(E) O) E I II O
  OE OOE PRISHTHAMATRA(E) SHORT(E O) U UE UU UUE VOCALIC(L LL R RR)))) DEVICE(CONTROL(FOUR ONE
  STRING THREE TWO)) DIAERESIS DIAMETER(SIGN) DIAMOND(OPERATOR SHAPE(WITH(A(DOT(INSIDE))))
  TARGET WITH(BOTTOM(HALF(BLACK)) LEFT(HALF(BLACK)) RIGHT(HALF(BLACK)) TOP(HALF(BLACK))))
  DIE(FACE-1 FACE-2 FACE-3 FACE-4 FACE-5 FACE-6) DIESEL(LOCOMOTIVE) DIFFERENCE(BETWEEN)
  DIGIT(EIGHT(. COMMA FULL(STOP)) FIVE(. COMMA FULL(STOP)) FOUR(. COMMA FULL(STOP)) NINE(.
  COMMA FULL(STOP)) ONE(. COMMA FULL(STOP)) SEVEN(. COMMA FULL(STOP)) SIX(. COMMA FULL(STOP))
  THREE(. COMMA FULL(STOP)) TWO(. COMMA FULL(STOP)) ZERO(. COMMA FULL(STOP))) DIGRAM(FOR(EARTH
  EARTHLY(HEAVEN HUMAN) GREATER(YANG YIN) HEAVENLY(EARTH) HUMAN(EARTH) LESSER(YANG YIN)))
  DIMENSION(ORIGIN) DINGBAT(CIRCLED(SANS-SERIF(DIGIT(EIGHT FIVE FOUR NINE ONE SEVEN SIX THREE
  TWO ZERO) NUMBER(TEN))) NEGATIVE(CIRCLED(DIGIT(EIGHT FIVE FOUR NINE ONE SEVEN SIX THREE TWO)
  NUMBER(TEN) SANS-SERIF(DIGIT(EIGHT FIVE FOUR NINE ONE SEVEN SIX THREE TWO ZERO)
  NUMBER(TEN))))) DIRECT(CURRENT(SYMBOL(FORM(TWO))) HIT) DISABLED(CAR)
  DISAPPOINTED(BUT(RELIEVED(FACE)) FACE) DISCONTINUOUS(UNDERLINE(SYMBOL)) DISGUISED(FACE)
  DITTO(MARK) DIVES(AKURU(DIGIT(EIGHT FIVE FOUR NINE ONE SEVEN SIX THREE TWO ZERO)
  DOUBLE(DANDA) END(OF(TEXT(MARK))) GAP(FILLER) INITIAL(RA) LETTER(A AA BA BHA CA CHA DA DDA
  DDHA DHA E GA GHA HA I II JA KA KHA LA LLA MA NA NGA NNA NYA O PA PHA RA SA SHA SSA TA THA
  TTA U UU VA YA YYA ZA) MEDIAL(RA YA) PREFIXED(NASAL(SIGN)) SIGN(ANUSVARA CANDRABINDU HALANTA
  NUKTA) VIRAMA VOWEL(SIGN(AA AI E I II O U UU)))) DIVIDES DIVING(MASK) DIVISION(SIGN SLASH
  TIMES) DIVORCE(SYMBOL) DIYA(LAMP) DIZZY(FACE SYMBOL) DLE DNA(DOUBLE(HELIX))
  DO(NOT(LITTER(SYMBOL))) DOCUMENT(. WITH(PICTURE TEXT(. AND(PICTURE)))) DODO
  DOES(NOT(CONTAIN(AS(MEMBER NORMAL(SUBGROUP(. OR(EQUAL))))) DIVIDE(.
  WITH(REVERSED(NEGATION(SLASH)))) FORCE PRECEDE(. OR(EQUAL)) PROVE SUCCEED(. OR(EQUAL))))
  DOG(. FACE) DOGRA(ABBREVIATION(SIGN) LETTER(A AA AI AU BA BHA CA CHA DA DDA DDHA DHA E GA GHA
  HA I II JA JHA KA KHA LA MA NA NGA NNA NYA O PA PHA RA RRA SA SHA SSA TA THA TTA TTHA U UU VA
  YA) SIGN(ANUSVARA NUKTA VIRAMA VISARGA) VOWEL(SIGN(AA AI AU E I II O U UU VOCALIC(R RR))))
  DOLLAR(SIGN) DOLPHIN DOMINO(TILE(HORIZONTAL(BACK) HORIZONTAL-00-00 HORIZONTAL-00-01
  HORIZONTAL-00-02 HORIZONTAL-00-03 HORIZONTAL-00-04 HORIZONTAL-00-05 HORIZONTAL-00-06
  HORIZONTAL-01-00 HORIZONTAL-01-01 HORIZONTAL-01-02 HORIZONTAL-01-03 HORIZONTAL-01-04
  HORIZONTAL-01-05 HORIZONTAL-01-06 HORIZONTAL-02-00 HORIZONTAL-02-01 HORIZONTAL-02-02
  HORIZONTAL-02-03 HORIZONTAL-02-04 HORIZONTAL-02-05 HORIZONTAL-02-06 HORIZONTAL-03-00
  HORIZONTAL-03-01 HORIZONTAL-03-02 HORIZONTAL-03-03 HORIZONTAL-03-04 HORIZONTAL-03-05
  HORIZONTAL-03-06 HORIZONTAL-04-00 HORIZONTAL-04-01 HORIZONTAL-04-02 HORIZONTAL-04-03
  HORIZONTAL-04-04 HORIZONTAL-04-05 HORIZONTAL-04-06 HORIZONTAL-05-00 HORIZONTAL-05-01
  HORIZONTAL-05-02 HORIZONTAL-05-03 HORIZONTAL-05-04 HORIZONTAL-05-05 HORIZONTAL-05-06
  HORIZONTAL-06-00 HORIZONTAL-06-01 HORIZONTAL-06-02 HORIZONTAL-06-03 HORIZONTAL-06-04
  HORIZONTAL-06-05 HORIZONTAL-06-06 VERTICAL(BACK) VERTICAL-00-00 VERTICAL-00-01 VERTICAL-00-02
  VERTICAL-00-03 VERTICAL-00-04 VERTICAL-00-05 VERTICAL-00-06 VERTICAL-01-00 VERTICAL-01-01
  VERTICAL-01-02 VERTICAL-01-03 VERTICAL-01-04 VERTICAL-01-05 VERTICAL-01-06 VERTICAL-02-00
  VERTICAL-02-01 VERTICAL-02-02 VERTICAL-02-03 VERTICAL-02-04 VERTICAL-02-05 VERTICAL-02-06
  VERTICAL-03-00 VERTICAL-03-01 VERTICAL-03-02 VERTICAL-03-03 VERTICAL-03-04 VERTICAL-03-05
  VERTICAL-03-06 VERTICAL-04-00 VERTICAL-04-01 VERTICAL-04-02 VERTICAL-04-03 VERTICAL-04-04
  VERTICAL-04-05 VERTICAL-04-06 VERTICAL-05-00 VERTICAL-05-01 VERTICAL-05-02 VERTICAL-05-03
  VERTICAL-05-04 VERTICAL-05-05 VERTICAL-05-06 VERTICAL-06-00 VERTICAL-06-01 VERTICAL-06-02
  VERTICAL-06-03 VERTICAL-06-04 VERTICAL-06-05 VERTICAL-06-06)) DONG(SIGN) DOOR DOT(ABOVE MINUS
  OPERATOR PLUS) DOTTED(CIRCLE CROSS FENCE LINE(FACE) OBELOS RIGHT-POINTING(ANGLE) SOLIDUS
  SQUARE TRANSPOSITION(MARKER)) DOUBLE(ACUTE(ACCENT) CIRCLED(DIGIT(EIGHT FIVE FOUR NINE ONE
  SEVEN SIX THREE TWO) NUMBER(TEN)) COLON(EQUAL) CURLY(LOOP) DAGGER DOWN(TACK)
  EXCLAMATION(MARK) HIGH-REVERSED-9(QUOTATION(MARK)) HYPHEN INTEGRAL INTERSECTION
  LEFT(ARC(GREATER-THAN(BRACKET))) LOGICAL(AND OR) LOW(LINE) LOW-9(QUOTATION(MARK))
  LOW-REVERSED-9(QUOTATION(MARK)) NESTED(GREATER-THAN LESS-THAN(. WITH(UNDERBAR)))
  OBLIQUE(HYPHEN) PLUS PRECEDES PRIME(. QUOTATION(MARK)) QUESTION(MARK)
  RIGHT(ARC(LESS-THAN(BRACKET))) SOLIDUS(OPERATOR) SQUARE(INTERSECTION UNION) STACKED(COMMA)
  STROKE(NOT(SIGN)) SUBSET SUCCEEDS SUPERSET SUSPENSION(MARK) UNION UP(TACK) VERTICAL(BAR(.
  DOUBLE(LEFT(TURNSTILE) RIGHT(TURNSTILE)) LEFT(TURNSTILE)) LINE) WAVY(OVERLINE))
  DOUBLE-ENDED(MULTIMAP) DOUBLE-LINE(EQUAL(TO(OR(GREATER-THAN LESS-THAN)))
  SLANTED(EQUAL(TO(OR(GREATER-THAN LESS-THAN))) GREATER-THAN(OR(EQUAL(TO)))
  LESS-THAN(OR(EQUAL(TO))))) DOUBLE-STRUCK(CAPITAL(C GAMMA H N P PI Q R Z) ITALIC(CAPITAL(D)
  SMALL(D E I J)) N-ARY(SUMMATION) SMALL(GAMMA PI)) DOUBLED(FEMALE(SIGN) MALE(SIGN) SYMBOL)
  DOUGHNUT DOVE(OF(PEACE)) DOWN(ARROWHEAD FISH(TAIL) RIGHT(DIAGONAL(ELLIPSIS)) TACK(.
  WITH(CIRCLE(BELOW)))) DOWN-POINTING(RED(TRIANGLE) SMALL(RED(TRIANGLE))
  TRIANGLE(WITH(LEFT(HALF(BLACK)) RIGHT(HALF(BLACK))))) DOWNWARD(FACING(HOOK(. WITH(DOT))
  NOTCHED(HOOK(. WITH(DOT))))) DOWNWARDS(ANCORA ARROW(. AND(RIGHT(ONE(EIGHTH(BLOCK))))
  FROM(BAR) LEFTWARDS(OF(UPWARDS(ARROW))) TO(BAR) WITH(CORNER(LEFTWARDS) DOUBLE(STROKE)
  EQUILATERAL(ARROWHEAD) HORIZONTAL(STROKE) LARGE(TRIANGLE(ARROWHEAD))
  MEDIUM(TRIANGLE(ARROWHEAD)) NOTCHED(TAIL) SMALL(EQUILATERAL(ARROWHEAD) TRIANGLE(ARROWHEAD))
  TIP(LEFTWARDS RIGHTWARDS))) BLACK(ARROW CIRCLED(WHITE(ARROW))) COMPRESSED(ARROW)
  DASHED(ARROW) DOUBLE(ARROW) FINGER-POST(ARROW)
  HARPOON(WITH(BARB(LEFT(BESIDE(DOWNWARDS(HARPOON(WITH(BARB(RIGHT))))
  UPWARDS(HARPOON(WITH(BARB(RIGHT))))) FROM(BAR) TO(BAR)) LEFTWARDS RIGHT(FROM(BAR) TO(BAR))
  RIGHTWARDS))) HEAVY(ARROW COMPRESSED(ARROW)) PAIRED(ARROWS) QUADRUPLE(ARROW) ROCKET
  SANS-SERIF(ARROW) SQUARED(ARROW) TRIANGLE(ARROWHEAD) TRIANGLE-HEADED(ARROW(.
  LEFTWARDS(OF(UPWARDS(TRIANGLE-HEADED(ARROW)))) TO(BAR) WITH(BOLD(SHAFT)
  DOUBLE(HORIZONTAL(STROKE)) HEAVY(SHAFT) LONG(TIP(LEFTWARDS RIGHTWARDS)) MEDIUM(SHAFT)
  NARROW(SHAFT) VERY(HEAVY(SHAFT)))) DASHED(ARROW) PAIRED(ARROWS) ZIGZAG(ARROW)) TRIPLE(ARROW)
  TWO(HEADED(ARROW)) TWO-HEADED(ARROW(WITH(TRIANGLE(ARROWHEADS)))) WHITE(ARROW(.
  WITHIN(TRIANGLE(ARROWHEAD)))) ZIGZAG(ARROW)) DRACHMA(SIGN) DRAFTING(POINT(RIGHTWARDS(ARROW)))
  DRAGON(. FACE) DRESS DRIVE(SLOW(SIGN)) DROMEDARY(CAMEL) DROOLING(FACE) DROP(OF(BLOOD))
  DROPLET DRUM(WITH(DRUMSTICKS)) DUCK DUMPLING DUPLOYAN(AFFIX(ATTACHED(E(HOOK) I(HOOK)
  LEFT-TO-RIGHT(SECANT) SECANT TAIL TANGENT(. HOOK)) HIGH(ACUTE CIRCLE DOT GRAVE LINE
  LONG(GRAVE) TIGHT(ACUTE) VERTICAL(. SECANT) WAVE) LEFT(HORIZONTAL(SECANT)) LOW(ACUTE ARROW
  CIRCLE DOT GRAVE LINE LONG(GRAVE) TIGHT(ACUTE) VERTICAL(. SECANT) WAVE)
  MID(HORIZONTAL(SECANT) VERTICAL(SECANT)) RIGHT(HORIZONTAL(SECANT))) DOUBLE(MARK) LETTER(A AOU
  B D(. S) DH E EE EU F(. N) G(. R(S)) H HL I IE J(. M(. S) N(. S) S(. WITH(DOT)) WITH(DOT
  DOTS(INSIDE(AND(ABOVE))))) K(. M R(S)) KK L LH LONG(I U) M(. N(. S) S WITH(DOT)) N(. M(. S) S
  WITH(DOT)) NASAL(A I O U) O OA OOH OU OW P(. N) PERNIN(AM AN) R(. S) RH ROMANIAN(I U) S(. J(.
  S) K(. R) M N P(. R) S T(. R) WITH(DOT(. BELOW))) SHORT(I) SLOAN(AN DH EE EH EN J ON OW U)
  T(. R(S) S) TH U(. N) UH UI V VOCALIC(M) W(. R) WA WEI WH WI WO WOW X XW YE)
  PUNCTUATION(CHINOOK(FULL(STOP))) SIGN(O(WITH(CROSS))) THICK(LETTER(SELECTOR))) DVD"

def letterE : String := "
  E-MAIL(SYMBOL) EAGLE EAR(. OF(MAIZE RICE) WITH(HEARING(AID))) EARTH(. GLOBE(AMERICAS
  ASIA-AUSTRALIA EUROPE-AFRICA) GROUND) EAST(SYRIAC(CROSS)) EDITORIAL(CORONIS) EGG
  EGYPTIAN(HIEROGLYPH(A001 A002 A003 A004 A005 A005A A006 A006A A006B A007 A008 A009 A010 A011
  A012 A013 A014 A014A A015 A016 A017 A017A A018 A019 A020 A021 A022 A023 A024 A025 A026 A027
  A028 A029 A030 A031 A032 A032A A033 A034 A035 A036 A037 A038 A039 A040 A040A A041 A042 A042A
  A043 A043A A044 A045 A045A A046 A047 A048 A049 A050 A051 A052 A053 A054 A055 A056 A057 A058
  A059 A060 A061 A062 A063 A064 A065 A066 A067 A068 A069 A070 AA001 AA002 AA003 AA004 AA005
  AA006 AA007 AA007A AA007B AA008 AA009 AA010 AA011 AA012 AA013 AA014 AA015 AA016 AA017 AA018
  AA019 AA020 AA021 AA022 AA023 AA024 AA025 AA026 AA027 AA028 AA029 AA030 AA031 AA032 B001 B002
  B003 B004 B005 B005A B006 B007 B008 B009 BEGIN(SEGMENT) C001 C002 C002A C002B C002C C003 C004
  C005 C006 C007 C008 C009 C010 C010A C011 C012 C013 C014 C015 C016 C017 C018 C019 C020 C021
  C022 C023 C024 D001 D002 D003 D004 D005 D006 D007 D008 D008A D009 D010 D011 D012 D013 D014
  D015 D016 D017 D018 D019 D020 D021 D022 D023 D024 D025 D026 D027 D027A D028 D029 D030 D031
  D031A D032 D033 D034 D034A D035 D036 D037 D038 D039 D040 D041 D042 D043 D044 D045 D046 D046A
  D047 D048 D048A D049 D050 D050A D050B D050C D050D D050E D050F D050G D050H D050I D051 D052
  D052A D053 D054 D054A D055 D056 D057 D058 D059 D060 D061 D062 D063 D064 D065 D066 D067 D067A
  D067B D067C D067D D067E D067F D067G D067H E001 E002 E003 E004 E005 E006 E007 E008 E008A E009
  E009A E010 E011 E012 E013 E014 E015 E016 E016A E017 E017A E018 E019 E020 E020A E021 E022 E023
  E024 E025 E026 E027 E028 E028A E029 E030 E031 E032 E033 E034 E034A E036 E037 E038
  END(SEGMENT) F001 F001A F002 F003 F004 F005 F006 F007 F008 F009 F010 F011 F012 F013 F013A
  F014 F015 F016 F017 F018 F019 F020 F021 F021A F022 F023 F024 F025 F026 F027 F028 F029 F030
  F031 F031A F032 F033 F034 F035 F036 F037 F037A F038 F038A F039 F040 F041 F042 F043 F044 F045
  F045A F046 F046A F047 F047A F048 F049 F050 F051 F051A F051B F051C F052 F053 G001 G002 G003
  G004 G005 G006 G006A G007 G007A G007B G008 G009 G010 G011 G011A G012 G013 G014 G015 G016 G017
  G018 G019 G020 G020A G021 G022 G023 G024 G025 G026 G026A G027 G028 G029 G030 G031 G032 G033
  G034 G035 G036 G036A G037 G037A G038 G039 G040 G041 G042 G043 G043A G044 G045 G045A G046 G047
  G048 G049 G050 G051 G052 G053 G054 H001 H002 H003 H004 H005 H006 H006A H007 H008
  HORIZONTAL(JOINER) I001 I002 I003 I004 I005 I005A I006 I007 I008 I009 I009A I010 I010A I011
  I011A I012 I013 I014 I015 INSERT(AT(BOTTOM(END START) TOP(END START))) K001 K002 K003 K004
  K005 K006 K007 K008 L001 L002 L002A L003 L004 L005 L006 L006A L007 L008 M001 M001A M001B M002
  M003 M003A M004 M005 M006 M007 M008 M009 M010 M010A M011 M012 M012A M012B M012C M012D M012E
  M012F M012G M012H M013 M014 M015 M015A M016 M016A M017 M017A M018 M019 M020 M021 M022 M022A
  M023 M024 M024A M025 M026 M027 M028 M028A M029 M030 M031 M031A M032 M033 M033A M033B M034
  M035 M036 M037 M038 M039 M040 M040A M041 M042 M043 M044 N001 N002 N003 N004 N005 N006 N007
  N008 N009 N010 N011 N012 N013 N014 N015 N016 N017 N018 N018A N018B N019 N020 N021 N022 N023
  N024 N025 N025A N026 N027 N028 N029 N030 N031 N032 N033 N033A N034 N034A N035 N035A N036 N037
  N037A N038 N039 N040 N041 N042 NL001 NL002 NL003 NL004 NL005 NL005A NL006 NL007 NL008 NL009
  NL010 NL011 NL012 NL013 NL014 NL015 NL016 NL017 NL017A NL018 NL019 NL020 NU001 NU002 NU003
  NU004 NU005 NU006 NU007 NU008 NU009 NU010 NU010A NU011 NU011A NU012 NU013 NU014 NU015 NU016
  NU017 NU018 NU018A NU019 NU020 NU021 NU022 NU022A O001 O001A O002 O003 O004 O005 O005A O006
  O006A O006B O006C O006D O006E O006F O007 O008 O009 O010 O010A O010B O010C O011 O012 O013 O014
  O015 O016 O017 O018 O019 O019A O020 O020A O021 O022 O023 O024 O024A O025 O025A O026 O027 O028
  O029 O029A O030 O030A O031 O032 O033 O033A O034 O035 O036 O036A O036B O036C O036D O037 O038
  O039 O040 O041 O042 O043 O044 O045 O046 O047 O048 O049 O050 O050A O050B O051 OVERLAY(MIDDLE)
  P001 P001A P002 P003 P003A P004 P005 P006 P007 P008 P009 P010 P011 Q001 Q002 Q003 Q004 Q005
  Q006 Q007 R001 R002 R002A R003 R003A R003B R004 R005 R006 R007 R008 R009 R010 R010A R011 R012
  R013 R014 R015 R016 R016A R017 R018 R019 R020 R021 R022 R023 R024 R025 R026 R027 R028 R029
  S001 S002 S002A S003 S004 S005 S006 S006A S007 S008 S009 S010 S011 S012 S013 S014 S014A S014B
  S015 S016 S017 S017A S018 S019 S020 S021 S022 S023 S024 S025 S026 S026A S026B S027 S028 S029
  S030 S031 S032 S033 S034 S035 S035A S036 S037 S038 S039 S040 S041 S042 S043 S044 S045 S046
  T001 T002 T003 T003A T004 T005 T006 T007 T007A T008 T008A T009 T009A T010 T011 T011A T012
  T013 T014 T015 T016 T016A T017 T018 T019 T020 T021 T022 T023 T024 T025 T026 T027 T028 T029
  T030 T031 T032 T032A T033 T033A T034 T035 T036 U001 U002 U003 U004 U005 U006 U006A U006B U007
  U008 U009 U010 U011 U012 U013 U014 U015 U016 U017 U018 U019 U020 U021 U022 U023 U023A U024
  U025 U026 U027 U028 U029 U029A U030 U031 U032 U032A U033 U034 U035 U036 U037 U038 U039 U040
  U041 U042 V001 V001A V001B V001C V001D V001E V001F V001G V001H V001I V002 V002A V003 V004
  V005 V006 V007 V007A V007B V008 V009 V010 V011 V011A V011B V011C V012 V012A V012B V013 V014
  V015 V016 V017 V018 V019 V020 V020A V020B V020C V020D V020E V020F V020G V020H V020I V020J
  V020K V020L V021 V022 V023 V023A V024 V025 V026 V027 V028 V028A V029 V029A V030 V030A V031
  V031A V032 V033 V033A V034 V035 V036 V037 V037A V038 V039 V040 V040A VERTICAL(JOINER) W001
  W002 W003 W003A W004 W005 W006 W007 W008 W009 W009A W010 W010A W011 W012 W013 W014 W014A W015
  W016 W017 W017A W018 W018A W019 W020 W021 W022 W023 W024 W024A W025 X001 X002 X003 X004 X004A
  X004B X005 X006 X006A X007 X008 X008A Y001 Y001A Y002 Y003 Y004 Y005 Y006 Y007 Y008 Z001 Z002
  Z002A Z002B Z002C Z002D Z003 Z003A Z003B Z004 Z004A Z005 Z005A Z006 Z007 Z008 Z009 Z010 Z011
  Z012 Z013 Z014 Z015 Z015A Z015B Z015C Z015D Z015E Z015F Z015G Z015H Z015I Z016 Z016A Z016B
  Z016C Z016D Z016E Z016F Z016G Z016H)) EIGHT(PETALLED(OUTLINED(BLACK(FLORETTE)))
  POINTED(BLACK(STAR) PINWHEEL(STAR) RECTILINEAR(BLACK(STAR))) SPOKED(ASTERISK)
  TEARDROP-SPOKED(PROPELLER(ASTERISK))) EIGHTH(NOTE) EJECT(SYMBOL) ELBASAN(LETTER(A BE CE CHE
  DE DHE E EI FE GE GHAMMA GHE GJE HE I JE KE KHE LE LLE ME NA NDE NE NJE O PE QE RE RRE SE SHE
  TE THE U VE XE Y ZE ZHE)) ELECTRIC(ARROW LIGHT(BULB) PLUG TORCH) ELECTRICAL(INTERSECTION)
  ELEMENT(OF(. OPENING(DOWNWARDS UPWARDS) WITH(DOT(ABOVE) LONG(HORIZONTAL(STROKE)) OVERBAR
  TWO(HORIZONTAL(STROKES)) UNDERBAR VERTICAL(BAR(AT(END(OF(HORIZONTAL(STROKE))))))))) ELEPHANT
  ELEVATOR ELF ELYMAIC(LETTER(ALEPH AYIN BETH DALETH GIMEL HE HETH KAPH LAMEDH MEM NUN PE QOPH
  RESH SADHE SAMEKH SHIN TAW TETH WAW YODH ZAYIN) LIGATURE(ZAYIN-YODH)) EM(DASH QUAD SPACE)
  EMOJI(COMPONENT(BALD CURLY(HAIR) RED(HAIR) WHITE(HAIR)) MODIFIER(FITZPATRICK(TYPE-1-2 TYPE-3
  TYPE-4 TYPE-5 TYPE-6))) EMPHASIS(SYMBOL) EMPTY(DOCUMENT NEST NOTE(. PAD PAGE) PAGE PAGES
  SET(. WITH(LEFT(ARROW(ABOVE)) OVERBAR RIGHT(ARROW(ABOVE)) SMALL(CIRCLE(ABOVE))))) EN(DASH
  QUAD SPACE) END(OF(GUARDED(AREA) LINE MEDIUM PROOF PROTECTED(AREA) SELECTED(AREA) TEXT
  TRANSMISSION(. BLOCK)) WITH(LEFTWARDS(ARROW(ABOVE)))) ENQ ENQUIRY ENTER(SYMBOL) ENVELOPE(.
  WITH(DOWNWARDS(ARROW(ABOVE)) LIGHTNING)) EOL EOM EOT EPA EQUAL(AND(PARALLEL(TO))
  TO(BY(DEFINITION) OR(GREATER-THAN LESS-THAN PRECEDES SUCCEEDS))) EQUALS(COLON SIGN(.
  ABOVE(LEFTWARDS(ARROW) PLUS(SIGN) RIGHTWARDS(ARROW) TILDE(OPERATOR)) AND(SLANTED(PARALLEL(.
  WITH(TILDE(ABOVE))))) WITH(BUMPY(ABOVE) DOT(BELOW) INFINITY(BELOW)
  TWO(DOTS(ABOVE(AND(TWO(DOTS(BELOW)))))))) WITH(ASTERISK)) EQUIANGULAR(TO) EQUIVALENT(TO
  WITH(FOUR(DOTS(ABOVE)))) ERASE(TO(THE(LEFT RIGHT))) ERIS(FORM(ONE TWO))
  ERROR-BARRED(BLACK(CIRCLE DIAMOND SQUARE) WHITE(CIRCLE DIAMOND SQUARE)) ESA ESC ESCAPE
  ESTIMATED(SYMBOL) ESTIMATES ETB ETHIOPIC(COLON COMBINING(GEMINATION(AND(VOWEL(LENGTH(MARK)))
  MARK) VOWEL(LENGTH(MARK))) COMMA DIGIT(EIGHT FIVE FOUR NINE ONE SEVEN SIX THREE TWO)
  FULL(STOP) NUMBER(EIGHTY FIFTY FORTY HUNDRED NINETY SEVENTY SIXTY TEN(. THOUSAND) THIRTY
  TWENTY) PARAGRAPH(SEPARATOR) PREFACE(COLON) QUESTION(MARK) SECTION(MARK) SEMICOLON
  SYLLABLE(BA BAA BBA BBAA BBE BBEE BBI BBO BBU BE BEE BI BO BOA BU BWA BWE BWEE BWI CA CAA CCA
  CCAA CCE CCEE CCHA CCHAA CCHE CCHEE CCHHA CCHHAA CCHHE CCHHEE CCHHI CCHHO CCHHU CCHI CCHO
  CCHU CCI CCO CCU CE CEE CHA CHAA CHE CHEE CHI CHO CHOA CHU CHWA CI CO COA CU CWA DA DAA DDA
  DDAA DDE DDEE DDHAA DDHE DDHEE DDHI DDHO DDHU DDI DDO DDOA DDU DDWA DE DEE DI DO DOA DU DWA
  DZAA DZE DZEE DZI DZO DZU FA FAA FE FEE FI FO FU FWA FWE FWEE FWI FYA GA GAA GE GEE GGA GGAA
  GGE GGEE GGI GGO GGU GGWA GGWAA GGWE GGWEE GGWI GI GLOTTAL(A AA E EE I O OA U WA) GO GOA GU
  GURAGE(BWEE BWI FWEE FWI GWE GWEE GWI HHWA KWE KWEE KWI MWEE MWI PWEE PWI QWE QWEE QWI) GWA
  GWAA GWE GWEE GWI GYA GYAA GYE GYEE GYI GYO GYU HA HAA HE HEE HHA HHAA HHE HHEE HHI HHO HHU
  HHWA HHWE HHWEE HHWI HHYA HHYAA HHYE HHYEE HHYI HHYO HHYU HI HO HOA HU JA JAA JE JEE JI JO
  JOA JU JWA KA KAA KE KEE KI KO KOA KU KWA KWAA KWE KWEE KWI KXA KXAA KXE KXEE KXI KXO KXU
  KXWA KXWAA KXWE KXWEE KXWI KYA KYAA KYE KYEE KYI KYO KYU LA LAA LE LEE LI LO LOA LU LWA MA
  MAA ME MEE MI MO MOA MU MWA MWE MWEE MWI MYA NA NAA NE NEE NI NO NOA NU NWA NYA NYAA NYE NYEE
  NYI NYO NYOA NYU NYWA PA PAA PE PEE PHA PHAA PHARYNGEAL(A AA E EE I O U) PHE PHEE PHI PHO
  PHOA PHU PHWA PI PO POA PU PWA PWE PWEE PWI QA QAA QE QEE QHA QHAA QHE QHEE QHI QHO QHU QHWA
  QHWAA QHWE QHWEE QHWI QI QO QOA QU QWA QWAA QWE QWEE QWI QYA QYAA QYE QYEE QYI QYO QYU RA RAA
  RE REE RI RO ROA RU RWA RYA SA SAA SE SEBATBEIT(BWA FWA MWA PWA) SEE SHA SHAA SHE SHEE SHI
  SHO SHOA SHU SHWA SI SO SOA SSA SSAA SSE SSEE SSI SSO SSU SU SWA SZA SZAA SZE SZEE SZI SZO
  SZU SZWA TA TAA TE TEE THA THAA THE THEE THI THO THOA THU THWA TI TO TOA TSA TSAA TSE TSEE
  TSI TSO TSU TSWA TTHAA TTHE TTHEE TTHI TTHO TTHU TU TWA TZA TZAA TZE TZEE TZI TZO TZOA TZU VA
  VAA VE VEE VI VO VU VWA WA WAA WE WEE WI WO WOA WU XA XAA XE XEE XI XO XOA XU XWA XWAA XWE
  XWEE XWI XYA XYAA XYE XYEE XYI XYO XYU YA YAA YE YEE YI YO YOA YU ZA ZAA ZE ZEE ZHA ZHAA ZHE
  ZHEE ZHI ZHO ZHU ZHWA ZI ZO ZOA ZU ZWA ZZA ZZAA ZZE ZZEE ZZI ZZO ZZU) TONAL(MARK(CHIRET DERET
  DERET-HIDET DIFAT HIDET KENAT KURT RIKRIK SHORT(RIKRIK) YIZET)) WORDSPACE) ETX
  EULER(CONSTANT) EURO(SIGN) EURO-CURRENCY(SIGN) EUROPEAN(CASTLE POST(OFFICE)) EVERGREEN(TREE)
  EXCESS EXCLAMATION(MARK QUESTION(MARK)) EXPRESSIONLESS(FACE)
  EXTENDED(ARABIC-INDIC(DIGIT(EIGHT FIVE FOUR NINE ONE SEVEN SIX THREE TWO ZERO)))
  EXTRATERRESTRIAL(ALIEN) EXTREMELY(HEAVY(FIVE(SPOKED(ASTERISK)) GREEK(CROSS) SALTIRE
  SIX(SPOKED(ASTERISK)) WHITE(CIRCLE SQUARE))) EYE EYEGLASSES EYES"

def letterF : String := "
  FACE(HOLDING(BACK(TEARS)) MASSAGE PALM SAVOURING(DELICIOUS(FOOD)) SCREAMING(IN(FEAR))
  THROWING(A(KISS)) WITH(COLD(SWEAT) COWBOY(HAT) DIAGONAL(MOUTH) FINGER(COVERING(CLOSED(LIPS)))
  HEAD-BANDAGE LOOK(OF(TRIUMPH)) MEDICAL(MASK) MONOCLE NO(GOOD(GESTURE)) OK(GESTURE)
  ONE(EYEBROW(RAISED)) OPEN(EYES(AND(HAND(OVER(MOUTH)))) MOUTH(. AND(COLD(SWEAT)) VOMITING))
  PARTY(HORN(AND(PARTY(HAT)))) PEEKING(EYE) PLEADING(EYES) ROLLING(EYES) STUCK-OUT(TONGUE(.
  AND(TIGHTLY-CLOSED(EYES) WINKING(EYE)))) TEARS(OF(JOY)) THERMOMETER
  UNEVEN(EYES(AND(WAVY(MOUTH))))) WITHOUT(MOUTH)) FACSIMILE(SIGN) FACTORY FAIRY FALAFEL
  FALLEN(LEAF) FALLING(DIAGONAL(CROSSING(NORTH(EAST(ARROW)) RISING(DIAGONAL))
  IN(WHITE(CIRCLE(IN(BLACK(SQUARE))))))) FAMILY FARSI(SYMBOL) FATHER(CHRISTMAS) FAX(ICON
  MACHINE) FEARFUL(FACE) FEATHER FEMALE(SIGN) FEMININE(ORDINAL(INDICATOR)) FENCER FERRIS(WHEEL)
  FERRY FF FIELD(HOCKEY(STICK(AND(BALL)))) FIGURE(DASH SPACE) FILE(CABINET FOLDER SEPARATOR)
  FILM(FRAMES PROJECTOR) FINITE(PART(INTEGRAL)) FIRE(. ENGINE EXTINGUISHER) FIRECRACKER
  FIREWORK(SPARKLER) FIREWORKS FIRST(PLACE(MEDAL) QUARTER(MOON(. SYMBOL WITH(FACE)))
  STRONG(ISOLATE)) FISH(. CAKE(WITH(SWIRL(DESIGN)))) FISHEYE FISHING(POLE(AND(FISH)))
  FISTED(HAND(SIGN)) FIVE(DOT(MARK PUNCTUATION)) FLAG(IN(HOLE)) FLAMINGO FLAT(SHOE) FLATBREAD
  FLATNESS FLEUR-DE-LIS FLEXED(BICEPS) FLOPPY(DISK) FLORAL(HEART) FLOWER(. PLAYING(CARDS)
  PUNCTUATION(MARK)) FLUSHED(FACE) FLY FLYING(DISC ENVELOPE SAUCER) FOG FOGGY FOLDER FONDUE
  FOOT FOOTPRINTS FOR(ALL) FORCES FORK(AND(KNIFE(. WITH(PLATE)))) FORKED(PARAGRAPHOS) FORKING
  FORM(FEED) FORTUNE(COOKIE) FOUNTAIN FOUR(BALLOON-SPOKED(ASTERISK) CLUB-SPOKED(ASTERISK)
  CORNER(ARROWS(CIRCLING(ANTICLOCKWISE))) DOT(MARK PUNCTUATION) LEAF(CLOVER)
  POINTED(BLACK(STAR)) TEARDROP-SPOKED(ASTERISK)) FOUR-PER-EM(SPACE) FOURTH(ROOT) FOX(FACE)
  FRACTION(NUMERATOR(ONE) SLASH) FRAME(WITH(AN(X) PICTURE TILES)) FREEZING(FACE)
  FRENCH(FRANC(SIGN) FRIES) FRIED(SHRIMP) FROG(FACE) FRONT-FACING(BABY(CHICK))
  FRONT-TILTED(SHADOWED(WHITE(RIGHTWARDS(ARROW)))) FROWN FROWNING(FACE(WITH(OPEN(MOUTH)))) FS
  FSI FUEL(PUMP) FULL(BLOCK MOON(SYMBOL WITH(FACE)) OUTER(JOIN) STOP) FULLWIDTH(AMPERSAND
  APOSTROPHE ASTERISK BROKEN(BAR) CENT(SIGN) CIRCUMFLEX(ACCENT) COLON COMMA COMMERCIAL(AT)
  DIGIT(EIGHT FIVE FOUR NINE ONE SEVEN SIX THREE TWO ZERO) DOLLAR(SIGN) EQUALS(SIGN)
  EXCLAMATION(MARK) FULL(STOP) GRAVE(ACCENT) GREATER-THAN(SIGN) HYPHEN-MINUS
  LATIN(CAPITAL(LETTER(A B C D E F G H I J K L M N O P Q R S T U V W X Y Z)) SMALL(LETTER(A B C
  D E F G H I J K L M N O P Q R S T U V W X Y Z))) LEFT(CURLY(BRACKET) PARENTHESIS
  SQUARE(BRACKET) WHITE(PARENTHESIS)) LESS-THAN(SIGN) LOW(LINE) MACRON NOT(SIGN) NUMBER(SIGN)
  PERCENT(SIGN) PLUS(SIGN) POUND(SIGN) QUESTION(MARK) QUOTATION(MARK) REVERSE(SOLIDUS)
  RIGHT(CURLY(BRACKET) PARENTHESIS SQUARE(BRACKET) WHITE(PARENTHESIS)) SEMICOLON SOLIDUS TILDE
  VERTICAL(LINE) WON(SIGN) YEN(SIGN)) FUNCTION(APPLICATION) FUNERAL(URN) FUSE FVS1 FVS2 FVS3
  FVS4"

def letterG : String := "
  GAME(DIE) GARLIC GEAR(. WITH(HANDLES) WITHOUT(HUB)) GEM(STONE) GEMINI GENIE
  GEOMETRIC(PROPORTION) GEOMETRICALLY(EQUAL(TO) EQUIVALENT(TO)) GEORGIAN(CAPITAL(LETTER(AEN AN
  BAN CAN CHAR CHIN CIL DON EN GAN GHAN HAE HAR HE HIE HOE IN JHAN JIL KAN KHAR LAS MAN NAR ON
  PAR PHAR QAR RAE SAN SHIN TAN TAR UN VIN WE XAN YN ZEN ZHAR)) LETTER(AEN AIN AN BAN CAN CHAR
  CHIN CIL DON ELIFI EN FI GAN GHAN HAE HAR HARD(SIGN) HE HIE HOE IN JHAN JIL KAN KHAR
  LABIAL(SIGN) LAS MAN NAR ON PAR PHAR QAR RAE SAN SHIN TAN TAR TURNED(GAN) UN VIN WE XAN YN
  ZEN ZHAR) MTAVRULI(CAPITAL(LETTER(AEN AIN AN BAN CAN CHAR CHIN CIL DON ELIFI EN FI GAN GHAN
  HAE HAR HARD(SIGN) HE HIE HOE IN JHAN JIL KAN KHAR LABIAL(SIGN) LAS MAN NAR ON PAR PHAR QAR
  RAE SAN SHIN TAN TAR TURNED(GAN) UN VIN WE XAN YN ZEN ZHAR))) PARAGRAPH(SEPARATOR)
  SMALL(LETTER(AEN AN BAN CAN CHAR CHIN CIL DON EN GAN GHAN HAE HAR HE HIE HOE IN JHAN JIL KAN
  KHAR LAS MAN NAR ON PAR PHAR QAR RAE SAN SHIN TAN TAR UN VIN WE XAN YN ZEN ZHAR)))
  GERMAN(PENNY(SIGN)) GETA(MARK) GHOST GIMEL(SYMBOL) GIRAFFE(FACE) GIRL GIRLS(SYMBOL)
  GLAGOLITIC(CAPITAL(LETTER(AZU BIG(YUS) BUKY CAUDATE(CHRIVI) CHRIVI DJERVI DOBRO DZELO FITA
  FRITU GLAGOLI HERU I INITIAL(IZHE) IOTATED(BIG(YUS) SMALL(YUS)) IZHE IZHITSA KAKO
  LATINATE(MYSLITE) LJUDIJE MYSLITE NASHI ONU OTU PE POKOJI RITSI SHA SHTA SHTAPIC SLOVO
  SMALL(YUS(. WITH(TAIL))) SPIDERY(HA) TROKUTASTI(A) TSI TVRIDO UKU VEDE YATI YERI YERU YESTU
  YO YU ZEMLJA ZHIVETE)) SMALL(LETTER(AZU BIG(YUS) BUKY CAUDATE(CHRIVI) CHRIVI DJERVI DOBRO
  DZELO FITA FRITU GLAGOLI HERU I INITIAL(IZHE) IOTATED(BIG(YUS) SMALL(YUS)) IZHE IZHITSA KAKO
  LATINATE(MYSLITE) LJUDIJE MYSLITE NASHI ONU OTU PE POKOJI RITSI SHA SHTA SHTAPIC SLOVO
  SMALL(YUS(. WITH(TAIL))) SPIDERY(HA) TROKUTASTI(A) TSI TVRIDO UKU VEDE YATI YERI YERU YESTU
  YO YU ZEMLJA ZHIVETE))) GLASS(OF(MILK)) GLEICH(STARK) GLOBE(WITH(MERIDIANS)) GLOVES
  GLOWING(STAR) GOAL(NET) GOAT GOGGLES GOLFER GORILLA GOTHIC(LETTER(AHSA AIHVUS BAIRKAN DAGS
  EIS FAIHU GIBA HAGL HWAIR IGGWS IUJA JER KUSMA LAGUS MANNA NAUTHS NINE(HUNDRED) NINETY OTHAL
  PAIRTHRA QAIRTHRA RAIDA SAUIL TEIWS THIUTH URUS WINJA)) GRADUATION(CAP)
  GRANTHA(AU(LENGTH(MARK)) LETTER(A AA AI AU BA BHA CA CHA DA DDA DDHA DHA EE GA GHA HA I II JA
  JHA KA KHA LA LLA MA NA NGA NNA NYA OO PA PHA RA SA SHA SSA TA THA TTA TTHA U UU VA
  VEDIC(ANUSVARA DOUBLE(ANUSVARA)) VOCALIC(L LL R RR) YA) OM SIGN(ANUSVARA AVAGRAHA CANDRABINDU
  COMBINING(ANUSVARA(ABOVE)) NUKTA PLUTA VIRAMA VISARGA) VOWEL(SIGN(AA AI AU EE I II OO U UU
  VOCALIC(L LL R RR)))) GRAPES GRAVE(ACCENT)
  GREATER-THAN(ABOVE(DOUBLE-LINE(EQUAL(ABOVE(LESS-THAN))) LESS-THAN(ABOVE(DOUBLE-LINE(EQUAL)))
  RIGHTWARDS(ARROW) SIMILAR(ABOVE(LESS-THAN) OR(EQUAL))
  SLANTED(EQUAL(ABOVE(LESS-THAN(ABOVE(SLANTED(EQUAL))))))) AND(NOT(APPROXIMATE)
  SINGLE-LINE(NOT(EQUAL(TO)))) BESIDE(LESS-THAN) BUT(NOT(EQUAL(TO) EQUIVALENT(TO)))
  CLOSED(BY(CURVE(. ABOVE(SLANTED(EQUAL))))) EQUAL(TO(OR(LESS-THAN))) OR(APPROXIMATE EQUAL(TO)
  EQUIVALENT(TO) LESS-THAN SLANTED(EQUAL(TO(. WITH(DOT(ABOVE(. LEFT) INSIDE))))))
  OVER(EQUAL(TO)) OVERLAPPING(LESS-THAN) SIGN WITH(CIRCLE(INSIDE) DOT QUESTION(MARK(ABOVE))))
  GREEK(ACROPHONIC(ATTIC(FIFTY(. STATERS TALENTS THOUSAND(. STATERS)) FIVE(. HUNDRED(. STATERS
  TALENTS) STATERS TALENTS THOUSAND(. TALENTS)) ONE(DRACHMA HALF HUNDRED(STATERS TALENTS)
  QUARTER THOUSAND(STATERS TALENTS)) TEN(MNAS STATERS TALENTS THOUSAND(STATERS)))
  CARYSTIAN(FIVE(HUNDRED)) CYRENAIC(TWO(DRACHMAS)) DELPHIC(FIVE(MNAS)) EPIDAUREAN(FIVE(HUNDRED)
  TWO(. DRACHMAS)) HERAEUM(ONE(PLETHRON)) HERMIONIAN(FIFTY ONE TEN) MESSENIAN(TEN)
  NAXIAN(FIVE(HUNDRED)) STRATIAN(FIFTY(MNAS)) THESPIAN(FIFTY FIVE(HUNDRED THOUSAND) ONE(.
  HUNDRED THOUSAND) TEN THIRTY THREE(HUNDRED) TWO) TROEZENIAN(FIFTY(. ALTERNATE(FORM)) FIVE(.
  HUNDRED) TEN(. ALTERNATE(FORM)))) ANO(TELEIA) AROURA(SIGN) ARTABE(SIGN) BETA(SYMBOL)
  CAPITAL(DOTTED(LUNATE(SIGMA(SYMBOL))) KAI(SYMBOL) LETTER(ALPHA(. WITH(DASIA(. AND(OXIA(.
  AND(PROSGEGRAMMENI)) PERISPOMENI(. AND(PROSGEGRAMMENI)) PROSGEGRAMMENI VARIA(.
  AND(PROSGEGRAMMENI)))) MACRON OXIA PROSGEGRAMMENI PSILI(. AND(OXIA(. AND(PROSGEGRAMMENI))
  PERISPOMENI(. AND(PROSGEGRAMMENI)) PROSGEGRAMMENI VARIA(. AND(PROSGEGRAMMENI)))) TONOS VARIA
  VRACHY)) ARCHAIC(SAMPI) BETA CHI DELTA EPSILON(. WITH(DASIA(. AND(OXIA VARIA)) OXIA PSILI(.
  AND(OXIA VARIA)) TONOS VARIA)) ETA(. WITH(DASIA(. AND(OXIA(. AND(PROSGEGRAMMENI))
  PERISPOMENI(. AND(PROSGEGRAMMENI)) PROSGEGRAMMENI VARIA(. AND(PROSGEGRAMMENI)))) OXIA
  PROSGEGRAMMENI PSILI(. AND(OXIA(. AND(PROSGEGRAMMENI)) PERISPOMENI(. AND(PROSGEGRAMMENI))
  PROSGEGRAMMENI VARIA(. AND(PROSGEGRAMMENI)))) TONOS VARIA)) GAMMA HETA IOTA(. WITH(DASIA(.
  AND(OXIA PERISPOMENI VARIA)) DIALYTIKA MACRON OXIA PSILI(. AND(OXIA PERISPOMENI VARIA)) TONOS
  VARIA VRACHY)) KAPPA LAMDA MU NU OMEGA(. WITH(DASIA(. AND(OXIA(. AND(PROSGEGRAMMENI))
  PERISPOMENI(. AND(PROSGEGRAMMENI)) PROSGEGRAMMENI VARIA(. AND(PROSGEGRAMMENI)))) OXIA
  PROSGEGRAMMENI PSILI(. AND(OXIA(. AND(PROSGEGRAMMENI)) PERISPOMENI(. AND(PROSGEGRAMMENI))
  PROSGEGRAMMENI VARIA(. AND(PROSGEGRAMMENI)))) TONOS VARIA)) OMICRON(. WITH(DASIA(. AND(OXIA
  VARIA)) OXIA PSILI(. AND(OXIA VARIA)) TONOS VARIA)) PAMPHYLIAN(DIGAMMA) PHI PI PSI RHO(.
  WITH(DASIA)) SAN SHO SIGMA TAU THETA UPSILON(. WITH(DASIA(. AND(OXIA PERISPOMENI VARIA))
  DIALYTIKA MACRON OXIA TONOS VARIA VRACHY)) XI YOT ZETA) LUNATE(SIGMA(SYMBOL))
  REVERSED(DOTTED(LUNATE(SIGMA(SYMBOL))) LUNATE(SIGMA(SYMBOL))) THETA(SYMBOL)) DASIA(. AND(OXIA
  PERISPOMENI VARIA)) DIALYTIKA(AND(OXIA PERISPOMENI VARIA) TONOS) DRACHMA(SIGN)
  FIVE(OBOLS(SIGN)) FOUR(OBOLS(SIGN)) GRAMMA(SIGN) INDICTION(SIGN)
  INSTRUMENTAL(NOTATION(SYMBOL-1 SYMBOL-11 SYMBOL-12 SYMBOL-13 SYMBOL-14 SYMBOL-17 SYMBOL-18
  SYMBOL-19 SYMBOL-2 SYMBOL-23 SYMBOL-24 SYMBOL-25 SYMBOL-26 SYMBOL-27 SYMBOL-29 SYMBOL-30
  SYMBOL-32 SYMBOL-36 SYMBOL-37 SYMBOL-38 SYMBOL-39 SYMBOL-4 SYMBOL-40 SYMBOL-42 SYMBOL-43
  SYMBOL-45 SYMBOL-47 SYMBOL-48 SYMBOL-49 SYMBOL-5 SYMBOL-50 SYMBOL-51 SYMBOL-52 SYMBOL-53
  SYMBOL-54 SYMBOL-7 SYMBOL-8)) KAI(SYMBOL) KAPPA(SYMBOL) KORONIS KYATHOS(BASE(SIGN))
  LETTER(ARCHAIC(KOPPA) DIGAMMA KOPPA SAMPI SMALL(CAPITAL(GAMMA LAMDA OMEGA PI PSI RHO)) STIGMA
  YOT) LITRA(SIGN) LOWER(NUMERAL(SIGN)) LUNATE(EPSILON(SYMBOL) SIGMA(SYMBOL)) METRETES(SIGN)
  MUSICAL(LEIMMA) NUMERAL(SIGN) OBOL(SIGN) ONE(HALF(SIGN(. ALTERNATE(FORM))) QUARTER(SIGN))
  OUNKIA(SIGN) OXIA PERISPOMENI PHI(SYMBOL) PI(SYMBOL) PROSGEGRAMMENI PSILI(. AND(OXIA
  PERISPOMENI VARIA)) QUESTION(MARK) REVERSED(LUNATE(EPSILON(SYMBOL))) RHO(SYMBOL
  WITH(STROKE(SYMBOL))) SINUSOID(SIGN) SMALL(DOTTED(LUNATE(SIGMA(SYMBOL))) LETTER(ALPHA(.
  WITH(DASIA(. AND(OXIA(. AND(YPOGEGRAMMENI)) PERISPOMENI(. AND(YPOGEGRAMMENI)) VARIA(.
  AND(YPOGEGRAMMENI)) YPOGEGRAMMENI)) MACRON OXIA(. AND(YPOGEGRAMMENI)) PERISPOMENI(.
  AND(YPOGEGRAMMENI)) PSILI(. AND(OXIA(. AND(YPOGEGRAMMENI)) PERISPOMENI(. AND(YPOGEGRAMMENI))
  VARIA(. AND(YPOGEGRAMMENI)) YPOGEGRAMMENI)) TONOS VARIA(. AND(YPOGEGRAMMENI)) VRACHY
  YPOGEGRAMMENI)) ARCHAIC(KOPPA SAMPI) BETA CHI DELTA DIGAMMA EPSILON(. WITH(DASIA(. AND(OXIA
  VARIA)) OXIA PSILI(. AND(OXIA VARIA)) TONOS VARIA)) ETA(. WITH(DASIA(. AND(OXIA(.
  AND(YPOGEGRAMMENI)) PERISPOMENI(. AND(YPOGEGRAMMENI)) VARIA(. AND(YPOGEGRAMMENI))
  YPOGEGRAMMENI)) OXIA(. AND(YPOGEGRAMMENI)) PERISPOMENI(. AND(YPOGEGRAMMENI)) PSILI(.
  AND(OXIA(. AND(YPOGEGRAMMENI)) PERISPOMENI(. AND(YPOGEGRAMMENI)) VARIA(. AND(YPOGEGRAMMENI))
  YPOGEGRAMMENI)) TONOS VARIA(. AND(YPOGEGRAMMENI)) YPOGEGRAMMENI)) FINAL(SIGMA) GAMMA HETA
  IOTA(. WITH(DASIA(. AND(OXIA PERISPOMENI VARIA)) DIALYTIKA(. AND(OXIA PERISPOMENI TONOS
  VARIA)) MACRON OXIA PERISPOMENI PSILI(. AND(OXIA PERISPOMENI VARIA)) TONOS VARIA VRACHY))
  KAPPA KOPPA LAMDA MU NU OMEGA(. WITH(DASIA(. AND(OXIA(. AND(YPOGEGRAMMENI)) PERISPOMENI(.
  AND(YPOGEGRAMMENI)) VARIA(. AND(YPOGEGRAMMENI)) YPOGEGRAMMENI)) OXIA(. AND(YPOGEGRAMMENI))
  PERISPOMENI(. AND(YPOGEGRAMMENI)) PSILI(. AND(OXIA(. AND(YPOGEGRAMMENI)) PERISPOMENI(.
  AND(YPOGEGRAMMENI)) VARIA(. AND(YPOGEGRAMMENI)) YPOGEGRAMMENI)) TONOS VARIA(.
  AND(YPOGEGRAMMENI)) YPOGEGRAMMENI)) OMICRON(. WITH(DASIA(. AND(OXIA VARIA)) OXIA PSILI(.
  AND(OXIA VARIA)) TONOS VARIA)) PAMPHYLIAN(DIGAMMA) PHI PI PSI RHO(. WITH(DASIA PSILI)) SAMPI
  SAN SHO SIGMA STIGMA TAU THETA UPSILON(. WITH(DASIA(. AND(OXIA PERISPOMENI VARIA))
  DIALYTIKA(. AND(OXIA PERISPOMENI TONOS VARIA)) MACRON OXIA PERISPOMENI PSILI(. AND(OXIA
  PERISPOMENI VARIA)) TONOS VARIA VRACHY)) XI ZETA) REVERSED(DOTTED(LUNATE(SIGMA(SYMBOL)))
  LUNATE(SIGMA(SYMBOL)))) SUBSCRIPT(SMALL(LETTER(BETA CHI GAMMA PHI RHO))) SYMBOL(TAU(RHO))
  TALENT(SIGN) THETA(SYMBOL) THREE(OBOLS(SIGN) QUARTERS(SIGN)) TONOS TRYBLION(BASE(SIGN))
  TWO(OBOLS(SIGN) THIRDS(SIGN)) UPSILON(WITH(ACUTE(AND(HOOK(SYMBOL)))
  DIAERESIS(AND(HOOK(SYMBOL))) HOOK(SYMBOL))) VARIA VOCAL(NOTATION(SYMBOL-1 SYMBOL-10 SYMBOL-11
  SYMBOL-12 SYMBOL-13 SYMBOL-14 SYMBOL-15 SYMBOL-16 SYMBOL-17 SYMBOL-18 SYMBOL-19 SYMBOL-2
  SYMBOL-20 SYMBOL-21 SYMBOL-22 SYMBOL-23 SYMBOL-24 SYMBOL-3 SYMBOL-4 SYMBOL-5 SYMBOL-50
  SYMBOL-51 SYMBOL-52 SYMBOL-53 SYMBOL-54 SYMBOL-6 SYMBOL-7 SYMBOL-8 SYMBOL-9)) XESTES(SIGN)
  YEAR(SIGN) YPOGEGRAMMENI ZERO(SIGN)) GREEN(APPLE BOOK HEART SALAD) GRIMACING(FACE)
  GRINNING(CAT(FACE(WITH(SMILING(EYES)))) FACE(. WITH(ONE(LARGE(AND(ONE(SMALL(EYE)))))
  SMILING(EYES) STAR(EYES)))) GROUP(MARK SEPARATOR) GROWING(HEART) GS GUARANI(SIGN) GUARDSMAN
  GUIDE(DOG) GUITAR GUJARATI(ABBREVIATION(SIGN) DIGIT(EIGHT FIVE FOUR NINE ONE SEVEN SIX THREE
  TWO ZERO) LETTER(A AA AI AU BA BHA CA CHA DA DDA DDHA DHA E GA GHA HA I II JA JHA KA KHA LA
  LLA MA NA NGA NNA NYA O PA PHA RA SA SHA SSA TA THA TTA TTHA U UU VA VOCALIC(L LL R RR) YA
  ZHA) OM RUPEE(SIGN) SIGN(ANUSVARA AVAGRAHA CANDRABINDU CIRCLE(NUKTA(ABOVE)) MADDAH NUKTA
  SHADDA SUKUN THREE-DOT(NUKTA(ABOVE)) TWO-CIRCLE(NUKTA(ABOVE)) VIRAMA VISARGA) VOWEL(CANDRA(E
  O) SIGN(AA AI AU CANDRA(E O) E I II O U UU VOCALIC(L LL R RR)))) GUNJALA(GONDI(DIGIT(EIGHT
  FIVE FOUR NINE ONE SEVEN SIX THREE TWO ZERO) LETTER(A AA AI AU BA BHA CA CHA DA DDA DDHA DHA
  EE GA GHA HA I II JA JHA KA KHA LA LLA MA NA NGA OO PA PHA RA SA TA THA TTA TTHA U UU VA YA)
  OM SIGN(ANUSVARA VISARGA) VIRAMA VOWEL(SIGN(AA AI AU EE I II OO U UU))))
  GURMUKHI(ABBREVIATION(SIGN) ADDAK DIGIT(EIGHT FIVE FOUR NINE ONE SEVEN SIX THREE TWO ZERO)
  EK(ONKAR) IRI LETTER(A AA AI AU BA BHA CA CHA DA DDA DDHA DHA EE FA GA GHA GHHA HA I II JA
  JHA KA KHA KHHA LA LLA MA NA NGA NNA NYA OO PA PHA RA RRA SA SHA TA THA TTA TTHA U UU VA YA
  ZA) SIGN(ADAK(BINDI) BINDI NUKTA UDAAT VIRAMA VISARGA YAKASH) TIPPI URA VOWEL(SIGN(AA AI AU
  EE I II OO U UU)))"

def letterH : String := "
  HADES HAIR(SPACE) HAIRCUT HALFWIDTH(BLACK(SQUARE) DOWNWARDS(ARROW) FORMS(LIGHT(VERTICAL))
  HANGUL(FILLER LETTER(A AE CHIEUCH CIEUC E EO EU HIEUH I IEUNG KHIEUKH KIYEOK KIYEOK-SIOS
  MIEUM NIEUN NIEUN-CIEUC NIEUN-HIEUH O OE PHIEUPH PIEUP PIEUP-SIOS RIEUL RIEUL-HIEUH
  RIEUL-KIYEOK RIEUL-MIEUM RIEUL-PHIEUPH RIEUL-PIEUP RIEUL-SIOS RIEUL-THIEUTH SIOS SSANGCIEUC
  SSANGKIYEOK SSANGPIEUP SSANGSIOS SSANGTIKEUT THIEUTH TIKEUT U WA WAE WE WEO WI YA YAE YE YEO
  YI YO YU)) IDEOGRAPHIC(COMMA FULL(STOP)) KATAKANA(LETTER(A E HA HE HI HO HU I KA KE KI KO KU
  MA ME MI MO MU N NA NE NI NO NU O RA RE RI RO RU SA SE SI SMALL(A E I O TU U YA YO YU) SO SU
  TA TE TI TO TU U WA WO YA YO YU) MIDDLE(DOT) SEMI-VOICED(SOUND(MARK)) VOICED(SOUND(MARK)))
  KATAKANA-HIRAGANA(PROLONGED(SOUND(MARK))) LEFT(CORNER(BRACKET)) LEFTWARDS(ARROW)
  RIGHT(CORNER(BRACKET)) RIGHTWARDS(ARROW) UPWARDS(ARROW) WHITE(CIRCLE)) HAMBURGER HAMMER(.
  AND(PICK SICKLE WRENCH)) HAMSA HAMSTER(FACE) HAND(WITH(INDEX(AND(MIDDLE(FINGERS(CROSSED)))
  FINGER(AND(THUMB(CROSSED)))))) HANDBAG HANDBALL HANDSHAKE HANGUL(CHOSEONG(CEONGCHIEUMCHIEUCH
  CEONGCHIEUMCIEUC CEONGCHIEUMSIOS CEONGCHIEUMSSANGCIEUC CEONGCHIEUMSSANGSIOS CHIEUCH
  CHIEUCH-HIEUH CHIEUCH-KHIEUKH CHITUEUMCHIEUCH CHITUEUMCIEUC CHITUEUMSIOS CHITUEUMSSANGCIEUC
  CHITUEUMSSANGSIOS CIEUC CIEUC-IEUNG FILLER HIEUH HIEUH-SIOS IEUNG IEUNG-CHIEUCH IEUNG-CIEUC
  IEUNG-HIEUH IEUNG-KIYEOK IEUNG-MIEUM IEUNG-PANSIOS IEUNG-PHIEUPH IEUNG-PIEUP IEUNG-RIEUL
  IEUNG-SIOS IEUNG-THIEUTH IEUNG-TIKEUT KAPYEOUNMIEUM KAPYEOUNPHIEUPH KAPYEOUNPIEUP
  KAPYEOUNRIEUL KAPYEOUNSSANGPIEUP KHIEUKH KIYEOK KIYEOK-TIKEUT MIEUM MIEUM-KIYEOK MIEUM-PIEUP
  MIEUM-SIOS MIEUM-TIKEUT NIEUN NIEUN-CIEUC NIEUN-HIEUH NIEUN-KIYEOK NIEUN-PIEUP NIEUN-SIOS
  NIEUN-TIKEUT PANSIOS PHIEUPH PHIEUPH-HIEUH PHIEUPH-PIEUP PIEUP PIEUP-CHIEUCH PIEUP-CIEUC
  PIEUP-HIEUH PIEUP-KHIEUKH PIEUP-KIYEOK PIEUP-NIEUN PIEUP-PHIEUPH PIEUP-SIOS PIEUP-SIOS-CIEUC
  PIEUP-SIOS-KIYEOK PIEUP-SIOS-PIEUP PIEUP-SIOS-THIEUTH PIEUP-SIOS-TIKEUT PIEUP-SSANGSIOS
  PIEUP-THIEUTH PIEUP-TIKEUT RIEUL RIEUL-CIEUC RIEUL-HIEUH RIEUL-KAPYEOUNPIEUP RIEUL-KHIEUKH
  RIEUL-KIYEOK RIEUL-MIEUM RIEUL-NIEUN RIEUL-PIEUP RIEUL-SIOS RIEUL-SSANGKIYEOK
  RIEUL-SSANGPIEUP RIEUL-SSANGTIKEUT RIEUL-TIKEUT SIOS SIOS-CHIEUCH SIOS-CIEUC SIOS-HIEUH
  SIOS-IEUNG SIOS-KHIEUKH SIOS-KIYEOK SIOS-MIEUM SIOS-NIEUN SIOS-PHIEUPH SIOS-PIEUP
  SIOS-PIEUP-KIYEOK SIOS-RIEUL SIOS-SSANGSIOS SIOS-THIEUTH SIOS-TIKEUT SSANGCIEUC
  SSANGCIEUC-HIEUH SSANGHIEUH SSANGIEUNG SSANGKIYEOK SSANGNIEUN SSANGPIEUP SSANGRIEUL SSANGSIOS
  SSANGSIOS-PIEUP SSANGTHIEUTH SSANGTIKEUT SSANGYEORINHIEUH THIEUTH TIKEUT TIKEUT-CIEUC
  TIKEUT-KIYEOK TIKEUT-MIEUM TIKEUT-PIEUP TIKEUT-RIEUL TIKEUT-SIOS YEORINHIEUH YESIEUNG)
  DOUBLE(DOT(TONE(MARK))) FILLER JONGSEONG(CHIEUCH CIEUC CIEUC-PIEUP CIEUC-SSANGPIEUP HIEUH
  HIEUH-MIEUM HIEUH-NIEUN HIEUH-PIEUP HIEUH-RIEUL IEUNG IEUNG-KHIEUKH IEUNG-KIYEOK
  IEUNG-SSANGKIYEOK KAPYEOUNMIEUM KAPYEOUNPHIEUPH KAPYEOUNPIEUP KAPYEOUNRIEUL KHIEUKH KIYEOK
  KIYEOK-CHIEUCH KIYEOK-HIEUH KIYEOK-KHIEUKH KIYEOK-NIEUN KIYEOK-PIEUP KIYEOK-RIEUL KIYEOK-SIOS
  KIYEOK-SIOS-KIYEOK MIEUM MIEUM-CHIEUCH MIEUM-CIEUC MIEUM-HIEUH MIEUM-KIYEOK MIEUM-NIEUN
  MIEUM-PANSIOS MIEUM-PIEUP MIEUM-PIEUP-SIOS MIEUM-RIEUL MIEUM-SIOS MIEUM-SSANGNIEUN
  MIEUM-SSANGSIOS NIEUN NIEUN-CHIEUCH NIEUN-CIEUC NIEUN-HIEUH NIEUN-KIYEOK NIEUN-PANSIOS
  NIEUN-RIEUL NIEUN-SIOS NIEUN-THIEUTH NIEUN-TIKEUT PANSIOS PANSIOS-KAPYEOUNPIEUP PANSIOS-PIEUP
  PHIEUPH PHIEUPH-PIEUP PHIEUPH-SIOS PHIEUPH-THIEUTH PIEUP PIEUP-CHIEUCH PIEUP-CIEUC
  PIEUP-HIEUH PIEUP-MIEUM PIEUP-PHIEUPH PIEUP-RIEUL PIEUP-RIEUL-PHIEUPH PIEUP-SIOS
  PIEUP-SIOS-TIKEUT PIEUP-TIKEUT RIEUL RIEUL-HIEUH RIEUL-KAPYEOUNPIEUP RIEUL-KHIEUKH
  RIEUL-KIYEOK RIEUL-KIYEOK-HIEUH RIEUL-KIYEOK-SIOS RIEUL-MIEUM RIEUL-MIEUM-HIEUH
  RIEUL-MIEUM-KIYEOK RIEUL-MIEUM-SIOS RIEUL-NIEUN RIEUL-PANSIOS RIEUL-PHIEUPH RIEUL-PIEUP
  RIEUL-PIEUP-HIEUH RIEUL-PIEUP-PHIEUPH RIEUL-PIEUP-SIOS RIEUL-PIEUP-TIKEUT RIEUL-SIOS
  RIEUL-SSANGKIYEOK RIEUL-SSANGSIOS RIEUL-THIEUTH RIEUL-TIKEUT RIEUL-TIKEUT-HIEUH
  RIEUL-YEORINHIEUH RIEUL-YEORINHIEUH-HIEUH RIEUL-YESIEUNG SIOS SIOS-CHIEUCH SIOS-CIEUC
  SIOS-HIEUH SIOS-KAPYEOUNPIEUP SIOS-KIYEOK SIOS-MIEUM SIOS-PANSIOS SIOS-PIEUP SIOS-RIEUL
  SIOS-THIEUTH SIOS-TIKEUT SSANGCIEUC SSANGIEUNG SSANGKIYEOK SSANGMIEUM SSANGNIEUN SSANGPIEUP
  SSANGRIEUL SSANGRIEUL-KHIEUKH SSANGSIOS SSANGSIOS-KIYEOK SSANGSIOS-TIKEUT SSANGTIKEUT
  SSANGTIKEUT-PIEUP SSANGYESIEUNG THIEUTH TIKEUT TIKEUT-CHIEUCH TIKEUT-CIEUC TIKEUT-KIYEOK
  TIKEUT-PIEUP TIKEUT-RIEUL TIKEUT-SIOS TIKEUT-SIOS-KIYEOK TIKEUT-THIEUTH YEORINHIEUH YESIEUNG
  YESIEUNG-HIEUH YESIEUNG-KHIEUKH YESIEUNG-KIYEOK YESIEUNG-MIEUM YESIEUNG-PANSIOS YESIEUNG-SIOS
  YESIEUNG-SSANGKIYEOK) JUNGSEONG(A A-EU A-O A-U AE ARAEA ARAEA-A ARAEA-E ARAEA-EO ARAEA-I
  ARAEA-U E EO EO-EU EO-O EO-U EU EU-A EU-E EU-EO EU-EU EU-O EU-U FILLER I I-A I-ARAEA I-EU I-I
  I-O I-O-I I-U I-YA I-YA-O I-YAE I-YE I-YEO I-YO I-YU O O-E O-EO O-O O-O-I O-U O-YA O-YAE O-YE
  O-YEO OE SSANGARAEA U U-A U-AE U-EO-EU U-I-I U-U U-YE U-YEO WA WAE WE WEO WI YA YA-O YA-U
  YA-YO YAE YE YEO YEO-O YEO-U YEO-YA YI YI-U YO YO-A YO-AE YO-EO YO-I YO-O YO-YA YO-YAE YO-YEO
  YU YU-A YU-AE YU-E YU-EO YU-I YU-O YU-U YU-YE YU-YEO) LETTER(A AE ARAEA ARAEAE CHIEUCH CIEUC
  E EO EU HIEUH I IEUNG KAPYEOUNMIEUM KAPYEOUNPHIEUPH KAPYEOUNPIEUP KAPYEOUNSSANGPIEUP KHIEUKH
  KIYEOK KIYEOK-SIOS MIEUM MIEUM-PANSIOS MIEUM-PIEUP MIEUM-SIOS NIEUN NIEUN-CIEUC NIEUN-HIEUH
  NIEUN-PANSIOS NIEUN-SIOS NIEUN-TIKEUT O OE PANSIOS PHIEUPH PIEUP PIEUP-CIEUC PIEUP-KIYEOK
  PIEUP-SIOS PIEUP-SIOS-KIYEOK PIEUP-SIOS-TIKEUT PIEUP-THIEUTH PIEUP-TIKEUT RIEUL RIEUL-HIEUH
  RIEUL-KIYEOK RIEUL-KIYEOK-SIOS RIEUL-MIEUM RIEUL-PANSIOS RIEUL-PHIEUPH RIEUL-PIEUP
  RIEUL-PIEUP-SIOS RIEUL-SIOS RIEUL-THIEUTH RIEUL-TIKEUT RIEUL-YEORINHIEUH SIOS SIOS-CIEUC
  SIOS-KIYEOK SIOS-NIEUN SIOS-PIEUP SIOS-TIKEUT SSANGCIEUC SSANGHIEUH SSANGIEUNG SSANGKIYEOK
  SSANGNIEUN SSANGPIEUP SSANGSIOS SSANGTIKEUT THIEUTH TIKEUT U WA WAE WE WEO WI YA YAE YE YEO
  YEORINHIEUH YESIEUNG YESIEUNG-PANSIOS YESIEUNG-SIOS YI YO YO-I YO-YA YO-YAE YU YU-I YU-YE
  YU-YEO) SINGLE(DOT(TONE(MARK)))) HANGZHOU(NUMERAL(EIGHT FIVE FOUR NINE ONE SEVEN SIX TEN
  THIRTY THREE TWENTY TWO)) HANIFI(ROHINGYA(DIGIT(EIGHT FIVE FOUR NINE ONE SEVEN SIX THREE TWO
  ZERO) LETTER(A BA CA DA DDA FA GA HA JA KA KHA KINNA(WA YA) LA MA NA NGA NYA PA RA RRA SA SHA
  TA TTA VA WA YA ZA) MARK(NA(KHONNA) SAKIN) SIGN(HARBAHAY TAHALA TANA TASSI) VOWEL(A E I O
  U))) HANUNOO(LETTER(A BA DA GA HA I KA LA MA NA NGA PA RA SA TA U WA YA) SIGN(PAMUDPOD)
  VOWEL(SIGN(I U))) HAPPY(PERSON(RAISING(ONE(HAND)))) HARD(DISK) HATCHING(CHICK)
  HATRAN(LETTER(ALEPH AYN BETH DALETH-RESH GIMEL HE HETH KAPH LAMEDH MEM NUN PE QOPH SADHE
  SAMEKH SHIN TAW TETH WAW YODH ZAYN) NUMBER(FIVE ONE(. HUNDRED) TEN TWENTY)) HEADPHONE
  HEADSTONE(. GRAVEYARD(SYMBOL)) HEAR-NO-EVIL(MONKEY) HEART(DECORATION HANDS WITH(ARROW RIBBON
  TIP(ON(THE(LEFT))))) HEAVY(AMPERSAND(ORNAMENT) ARROW(SHAFT(WIDTH(ONE(. HALF THIRD)
  TWO(THIRDS)))) ASTERISK BALLOT(X) BLACK(CURVED(DOWNWARDS(AND(RIGHTWARDS(ARROW)))
  UPWARDS(AND(RIGHTWARDS(ARROW)))) HEART) BLACK-FEATHERED(NORTH(EAST(ARROW)) RIGHTWARDS(ARROW)
  SOUTH(EAST(ARROW))) CHECK(MARK) CHEVRON(SNOWFLAKE) CIRCLE(. WITH(CIRCLE(INSIDE)
  STROKE(AND(TWO(DOTS(ABOVE)))))) CIRCLED(SALTIRE) CONCAVE-POINTED(BLACK(RIGHTWARDS(ARROW)))
  DASHED(TRIANGLE-HEADED(RIGHTWARDS(ARROW))) DIVISION(SIGN) DOLLAR(SIGN)
  DOUBLE(COMMA(QUOTATION(MARK(ORNAMENT))) TURNED(COMMA(QUOTATION(MARK(ORNAMENT)))))
  DOWNWARDS(ARROW(WITH(EQUILATERAL(ARROWHEAD) LARGE(EQUILATERAL(ARROWHEAD)))))
  EIGHT(POINTED(BLACK(STAR) PINWHEEL(STAR) RECTILINEAR(BLACK(STAR))) SPOKED(ASTERISK)
  TEARDROP-SPOKED(PROPELLER(ASTERISK))) EQUALS(SIGN) EXCLAMATION(MARK(ORNAMENT SYMBOL))
  FIVE(POINTED(BLACK(STAR)) SPOKED(ASTERISK)) FOUR(BALLOON-SPOKED(ASTERISK)) GREEK(CROSS)
  HEART(EXCLAMATION(MARK(ORNAMENT))) HORIZONTAL(FILL) INTERROBANG(ORNAMENT) LARGE(CIRCLE)
  LATIN(CROSS) LEFT-POINTING(ANGLE(BRACKET(ORNAMENT) QUOTATION(MARK(ORNAMENT))))
  LEFTWARDS(ARROW(WITH(EQUILATERAL(ARROWHEAD) LARGE(EQUILATERAL(ARROWHEAD)))))
  LIGATURE(OPEN(ET(ORNAMENT))) LOW(DOUBLE(COMMA(QUOTATION(MARK(ORNAMENT))))
  SINGLE(COMMA(QUOTATION(MARK(ORNAMENT))))) LOWER(RIGHT-SHADOWED(WHITE(RIGHTWARDS(ARROW))))
  MINUS(SIGN) MULTIPLICATION(X) NORTH(EAST(ARROW POINTING(BUD VINE(LEAF))) WEST(POINTING(BUD
  VINE(LEAF)))) OPEN(CENTRE(CROSS)) OUTLINED(BLACK(STAR)) OVAL(WITH(OVAL(INSIDE))) PLUS(SIGN)
  RIGHT-POINTING(ANGLE(BRACKET(ORNAMENT) QUOTATION(MARK(ORNAMENT)))) RIGHTWARDS(ARROW(.
  WITH(EQUILATERAL(ARROWHEAD) LARGE(EQUILATERAL(ARROWHEAD))))) ROUND-TIPPED(RIGHTWARDS(ARROW))
  SALTIRE SANS-SERIF(INTERROBANG(ORNAMENT)) SCRIPT(LIGATURE(ET(ORNAMENT)))
  SINGLE(COMMA(QUOTATION(MARK(ORNAMENT))) TURNED(COMMA(QUOTATION(MARK(ORNAMENT)))))
  SIX(POINTED(BLACK(STAR)) SPOKED(ASTERISK)) SOUTH(EAST(ARROW POINTING(BUD VINE(LEAF)))
  WEST(POINTING(BUD VINE(LEAF)))) SPARKLE TEARDROP-SHANKED(RIGHTWARDS(ARROW))
  TEARDROP-SPOKED(ASTERISK PINWHEEL(ASTERISK)) TRIANGLE-HEADED(RIGHTWARDS(ARROW))
  TWELVE(POINTED(BLACK(STAR) PINWHEEL(STAR))) UPPER(RIGHT-SHADOWED(WHITE(RIGHTWARDS(ARROW))))
  UPWARDS(ARROW(WITH(EQUILATERAL(ARROWHEAD) LARGE(EQUILATERAL(ARROWHEAD))))) VERTICAL(BAR)
  WEDGE-TAILED(RIGHTWARDS(ARROW)) WHITE(CIRCLE DOWN-POINTING(TRIANGLE) SQUARE)
  WIDE-HEADED(RIGHTWARDS(ARROW))) HEBREW(ACCENT(ATNAH(HAFUKH) DARGA DEHI ETNAHTA GERESH(.
  MUQDAM) GERSHAYIM ILUY MAHAPAKH MERKHA(. KEFULA) MUNAH OLE PASHTA PAZER QADMA QARNEY(PARA)
  REVIA SEGOL SHALSHELET TELISHA(GEDOLA QETANA) TEVIR TIPEHA YERAH(BEN(YOMO)) YETIV ZAQEF(GADOL
  QATAN) ZARQA ZINOR) LETTER(ALEF(. WITH(MAPIQ PATAH QAMATS)) ALTERNATIVE(AYIN PLUS(SIGN)) AYIN
  BET(. WITH(DAGESH RAFE)) DALET(. WITH(DAGESH)) FINAL(KAF(. WITH(DAGESH)) MEM NUN PE(.
  WITH(DAGESH)) TSADI) GIMEL(. WITH(DAGESH)) HE(. WITH(MAPIQ)) HET KAF(. WITH(DAGESH RAFE))
  LAMED(. WITH(DAGESH)) MEM(. WITH(DAGESH)) NUN(. WITH(DAGESH)) PE(. WITH(DAGESH RAFE)) QOF(.
  WITH(DAGESH)) RESH(. WITH(DAGESH)) SAMEKH(. WITH(DAGESH)) SHIN(. WITH(DAGESH(. AND(SHIN(DOT)
  SIN(DOT))) SHIN(DOT) SIN(DOT))) TAV(. WITH(DAGESH)) TET(. WITH(DAGESH)) TSADI(. WITH(DAGESH))
  VAV(. WITH(DAGESH HOLAM)) WIDE(ALEF DALET FINAL(MEM) HE KAF LAMED RESH TAV) YOD(. WITH(DAGESH
  HIRIQ)) ZAYIN(. WITH(DAGESH))) LIGATURE(ALEF(LAMED) YIDDISH(DOUBLE(VAV YOD) VAV(YOD)
  YOD(YOD(PATAH)))) MARK(LOWER(DOT) MASORA(CIRCLE) UPPER(DOT)) POINT(DAGESH(OR(MAPIQ))
  HATAF(PATAH QAMATS SEGOL) HIRIQ HOLAM(. HASER(FOR(VAV))) JUDEO-SPANISH(VARIKA) METEG PATAH
  QAMATS(. QATAN) QUBUTS RAFE SEGOL SHEVA SHIN(DOT) SIN(DOT) TSERE) PUNCTUATION(GERESH
  GERSHAYIM MAQAF NUN(HAFUKHA) PASEQ SOF(PASUQ)) YOD(TRIANGLE)) HEDGEHOG HELICOPTER
  HELLSCHREIBER(PAUSE(SYMBOL)) HELM(SYMBOL) HELMET(WITH(WHITE(CROSS))) HENTAIGANA(LETTER(A-1
  A-2 A-3 A-WO E-1 E-2 E-3 E-4 E-5 E-6 HA-1 HA-10 HA-11 HA-2 HA-3 HA-4 HA-5 HA-6 HA-7 HA-8 HA-9
  HE-1 HE-2 HE-3 HE-4 HE-5 HE-6 HE-7 HI-1 HI-2 HI-3 HI-4 HI-5 HI-6 HI-7 HO-1 HO-2 HO-3 HO-4
  HO-5 HO-6 HO-7 HO-8 HU-1 HU-2 HU-3 I-1 I-2 I-3 I-4 KA-1 KA-10 KA-11 KA-2 KA-3 KA-4 KA-5 KA-6
  KA-7 KA-8 KA-9 KA-KE KE-1 KE-2 KE-3 KE-4 KE-5 KE-6 KI-1 KI-2 KI-3 KI-4 KI-5 KI-6 KI-7 KI-8
  KO-1 KO-2 KO-3 KO-KI KU-1 KU-2 KU-3 KU-4 KU-5 KU-6 KU-7 MA-1 MA-2 MA-3 MA-4 MA-5 MA-6 MA-7
  ME-1 ME-2 ME-MA MI-1 MI-2 MI-3 MI-4 MI-5 MI-6 MI-7 MO-1 MO-2 MO-3 MO-4 MO-5 MO-6 MU-1 MU-2
  MU-3 MU-4 N-MU-MO-1 N-MU-MO-2 NA-1 NA-2 NA-3 NA-4 NA-5 NA-6 NA-7 NA-8 NA-9 NE-1 NE-2 NE-3
  NE-4 NE-5 NE-6 NE-KO NI-1 NI-2 NI-3 NI-4 NI-5 NI-6 NI-7 NI-TE NO-1 NO-2 NO-3 NO-4 NO-5 NU-1
  NU-2 NU-3 O-1 O-2 O-3 RA-1 RA-2 RA-3 RA-4 RE-1 RE-2 RE-3 RE-4 RI-1 RI-2 RI-3 RI-4 RI-5 RI-6
  RI-7 RO-1 RO-2 RO-3 RO-4 RO-5 RO-6 RU-1 RU-2 RU-3 RU-4 RU-5 RU-6 SA-1 SA-2 SA-3 SA-4 SA-5
  SA-6 SA-7 SA-8 SE-1 SE-2 SE-3 SE-4 SE-5 SI-1 SI-2 SI-3 SI-4 SI-5 SI-6 SO-1 SO-2 SO-3 SO-4
  SO-5 SO-6 SO-7 SU-1 SU-2 SU-3 SU-4 SU-5 SU-6 SU-7 SU-8 TA-1 TA-2 TA-3 TA-4 TE-1 TE-2 TE-3
  TE-4 TE-5 TE-6 TE-7 TE-8 TE-9 TI-1 TI-2 TI-3 TI-4 TI-5 TI-6 TI-7 TO-1 TO-2 TO-3 TO-4 TO-5
  TO-6 TO-RA TU-1 TU-2 TU-3 TU-4 TU-TO U-1 U-2 U-3 U-4 U-5 WA-1 WA-2 WA-3 WA-4 WA-5 WE-1 WE-2
  WE-3 WE-4 WI-1 WI-2 WI-3 WI-4 WI-5 WO-1 WO-2 WO-3 WO-4 WO-5 WO-6 WO-7 YA-1 YA-2 YA-3 YA-4
  YA-5 YA-YO YO-1 YO-2 YO-3 YO-4 YO-5 YO-6 YU-1 YU-2 YU-3 YU-4)) HERB
  HERMITIAN(CONJUGATE(MATRIX)) HEXAGRAM(FOR(ABUNDANCE AFTER(COMPLETION) APPROACH
  BEFORE(COMPLETION) BITING(THROUGH) BREAKTHROUGH COMING(TO(MEET)) CONFLICT CONTEMPLATION
  DARKENING(OF(THE(LIGHT))) DECREASE DELIVERANCE DEVELOPMENT DIFFICULTY(AT(THE(BEGINNING)))
  DISPERSION DURATION ENTHUSIASM FELLOWSHIP FOLLOWING GATHERING(TOGETHER) GRACE
  GREAT(POSSESSION POWER PREPONDERANCE TAMING) HOLDING(TOGETHER) INCREASE INFLUENCE
  INNER(TRUTH) INNOCENCE LIMITATION MODESTY MOUTH(CORNERS) OBSTRUCTION OPPOSITION OPPRESSION
  PEACE PROGRESS PUSHING(UPWARD) RETREAT RETURN REVOLUTION SMALL(PREPONDERANCE TAMING)
  SPLITTING(APART) STANDSTILL THE(ABYSMAL(WATER) ARMY AROUSING(THUNDER) CAULDRON CLINGING(FIRE)
  CREATIVE(HEAVEN) FAMILY GENTLE(WIND) JOYOUS(LAKE) KEEPING(STILL(MOUNTAIN)) MARRYING(MAIDEN)
  RECEPTIVE(EARTH) WANDERER WELL) TREADING WAITING WORK(ON(THE(DECAYED))) YOUTHFUL(FOLLY)))
  HIBISCUS HIGH(BRIGHTNESS(SYMBOL) OCTET(PRESET) VOLTAGE(SIGN)) HIGH-HEELED(SHOE)
  HIGH-SPEED(TRAIN(. WITH(BULLET(NOSE)))) HIKING(BOOT) HINDU(TEMPLE) HIPPOPOTAMUS
  HIRAGANA(DIGRAPH(YORI) ITERATION(MARK) LETTER(A ARCHAIC(WU YE) BA BE BI BO BU DA DE DI DO DU
  E GA GE GI GO GU HA HE HI HO HU I KA KE KI KO KU MA ME MI MO MU N NA NE NI NO NU O PA PE PI
  PO PU RA RE RI RO RU SA SE SI SMALL(A E I KA KE O TU U WA WE WI WO YA YO YU) SO SU TA TE TI
  TO TU U VU WA WE WI WO YA YO YU ZA ZE ZI ZO ZU) VOICED(ITERATION(MARK))) HISTORIC(SITE) HOCHO
  HOLE HOLLOW(QUILT(SQUARE(ORNAMENT(. IN(BLACK(SQUARE)))))) HOMOTHETIC HONEY(POT) HONEYBEE HOOK
  HOP HORIZONTAL(BAR BLACK(HEXAGON OCTAGON) ELLIPSIS LINE(EXTENSION) MALE(WITH(STROKE(SIGN)))
  ONE(EIGHTH(BLOCK-1358 BLOCK-2 BLOCK-3 BLOCK-4 BLOCK-5 BLOCK-6 BLOCK-7)) SCAN(LINE-1 LINE-3
  LINE-7 LINE-9) TAB(KEY) TABULATION(. SET WITH(JUSTIFICATION)) TRAFFIC(LIGHT)) HORSE(. FACE
  RACING) HOSPITAL HOT(BEVERAGE DOG PEPPER SPRINGS) HOTEL HOURGLASS(. WITH(FLOWING(SAND)))
  HOUSE(. BUILDING BUILDINGS WITH(GARDEN)) HRYVNIA(SIGN) HT HTJ HTS HUGGING(FACE)
  HUNDRED(POINTS(SYMBOL)) HUSHED(FACE) HUT HYGIEA HYPHEN(. BULLET WITH(DIAERESIS)) HYPHEN-MINUS
  HYPHENATION(POINT) HYPODIASTOLE HYSTERESIS(SYMBOL)"

def letterI : String := "
  I(LOVE(YOU(HAND(SIGN)))) ICE(CREAM CUBE HOCKEY(STICK(AND(PUCK))) SKATE) IDENTICAL(TO(.
  AND(SLANTED(PARALLEL))) WITH(DOT(ABOVE))) IDENTIFICATION(CARD)
  IDEOGRAPHIC(ANNOTATION(BOTTOM(MARK) EARTH(MARK) FIRST(MARK) FOUR(MARK) FOURTH(MARK)
  HEAVEN(MARK) LINKING(MARK) MAN(MARK) MIDDLE(MARK) ONE(MARK) REVERSE(MARK) SECOND(MARK)
  THIRD(MARK) THREE(MARK) TOP(MARK) TWO(MARK)) CLOSING(MARK) COMMA DEPARTING(TONE(MARK))
  DESCRIPTION(CHARACTER(ABOVE(TO(BELOW MIDDLE(AND(BELOW)))) FULL(SURROUND)
  LEFT(TO(MIDDLE(AND(RIGHT)) RIGHT)) OVERLAID SURROUND(FROM(ABOVE BELOW LEFT LOWER(LEFT)
  UPPER(LEFT RIGHT))))) ENTERING(TONE(MARK)) FULL(STOP) HALF(FILL(SPACE)) ITERATION(MARK)
  LEVEL(TONE(MARK)) NUMBER(ZERO) RISING(TONE(MARK)) SPACE TALLY(MARK(FIVE FOUR ONE THREE TWO))
  TELEGRAPH(LINE(FEED(SEPARATOR(SYMBOL))) SYMBOL(FOR(APRIL AUGUST DAY(EIGHT EIGHTEEN ELEVEN
  FIFTEEN FIVE FOUR FOURTEEN NINE NINETEEN ONE SEVEN SEVENTEEN SIX SIXTEEN TEN THIRTEEN THIRTY
  THIRTY-ONE THREE TWELVE TWENTY TWENTY-EIGHT TWENTY-FIVE TWENTY-FOUR TWENTY-NINE TWENTY-ONE
  TWENTY-SEVEN TWENTY-SIX TWENTY-THREE TWENTY-TWO TWO) DECEMBER FEBRUARY HOUR(EIGHT EIGHTEEN
  ELEVEN FIFTEEN FIVE FOUR FOURTEEN NINE NINETEEN ONE SEVEN SEVENTEEN SIX SIXTEEN TEN THIRTEEN
  THREE TWELVE TWENTY TWENTY-FOUR TWENTY-ONE TWENTY-THREE TWENTY-TWO TWO ZERO) JANUARY JULY
  JUNE MARCH MAY NOVEMBER OCTOBER SEPTEMBER))) VARIATION(INDICATOR)) IMAGE(OF(.
  OR(APPROXIMATELY(EQUAL(TO))))) IMP IMPERIAL(ARAMAIC(LETTER(ALEPH AYIN BETH DALETH GIMEL HE
  HETH KAPH LAMEDH MEM NUN PE QOPH RESH SADHE SAMEKH SHIN TAW TETH WAW YODH ZAYIN) NUMBER(ONE(.
  HUNDRED THOUSAND) TEN(. THOUSAND) THREE TWENTY TWO) SECTION(SIGN))) INBOX(TRAY)
  INCOMING(ENVELOPE) INCOMPLETE(INFINITY) INCREASE(FONT(SIZE(SYMBOL))) INCREASES(AS) INCREMENT
  IND INDEX(. POINTING(AT(THE(VIEWER)))) INDIAN(RUPEE(SIGN)) INDIC(SIYAQ(ALTERNATE(LAKH(MARK))
  FRACTION(ONE(HALF QUARTER) THREE(QUARTERS)) LAKH(MARK) NUMBER(ALTERNATE(ONE TEN(THOUSAND)
  TWO) EIGHT(. HUNDRED THOUSAND) EIGHTY(. THOUSAND) FIFTY(. THOUSAND) FIVE(. HUNDRED THOUSAND)
  FORTY(. THOUSAND) FOUR(. HUNDRED THOUSAND) KAROR KARORAN LAKH LAKHAN NINE(. HUNDRED THOUSAND)
  NINETY(. THOUSAND) ONE(. HUNDRED THOUSAND) PREFIXED(EIGHT FIVE FOUR NINE ONE SEVEN SIX THREE
  TWO) SEVEN(. HUNDRED THOUSAND) SEVENTY(. THOUSAND) SIX(. HUNDRED THOUSAND) SIXTY(. THOUSAND)
  TEN(. THOUSAND) THIRTY(. THOUSAND) THREE(. HUNDRED THOUSAND) TWENTY(. THOUSAND) TWO(. HUNDRED
  THOUSAND)) PLACEHOLDER RUPEE(MARK))) INFINITY(. NEGATED(WITH(VERTICAL(BAR))))
  INFORMATION(DESK(PERSON) SEPARATOR(FOUR ONE THREE TWO) SOURCE) INHIBIT(ARABIC(FORM(SHAPING))
  SYMMETRIC(SWAPPING)) INPUT(SYMBOL(FOR(LATIN(CAPITAL(LETTERS) LETTERS SMALL(LETTERS)) NUMBERS
  SYMBOLS))) INSCRIPTIONAL(PAHLAVI(LETTER(ALEPH BETH DALETH GIMEL HE HETH KAPH LAMEDH MEM-QOPH
  NUN PE SADHE SAMEKH SHIN TAW TETH WAW-AYIN-RESH YODH ZAYIN) NUMBER(FOUR ONE(. HUNDRED
  THOUSAND) TEN THREE TWENTY TWO)) PARTHIAN(LETTER(ALEPH AYIN BETH DALETH GIMEL HE HETH KAPH
  LAMEDH MEM NUN PE QOPH RESH SADHE SAMEKH SHIN TAW TETH WAW YODH ZAYIN) NUMBER(FOUR ONE(.
  HUNDRED THOUSAND) TEN THREE TWENTY TWO))) INSERTION(SYMBOL) INTEGRAL(.
  AROUND(A(POINT(OPERATOR))) AVERAGE(WITH(SLASH)) EXTENSION WITH(DOUBLE(STROKE) INTERSECTION
  LEFTWARDS(ARROW(WITH(HOOK))) OVERBAR TIMES(SIGN) UNDERBAR UNION)) INTERCALATE
  INTERIOR(PRODUCT) INTERLINEAR(ANNOTATION(ANCHOR SEPARATOR TERMINATOR))
  INTERLOCKED(FEMALE(AND(MALE(SIGN)))) INTERROBANG INTERSECTION(. ABOVE(BAR(ABOVE(UNION))
  UNION) BESIDE(AND(JOINED(WITH(INTERSECTION)))) WITH(DOT LOGICAL(AND) OVERBAR)) INVERSE(BULLET
  CHECK(MARK) CHECKER(BOARD(FILL)) DOWNWARDS(ARROW(WITH(TIP(LEFTWARDS)))) MEDIUM(SHADE)
  WHITE(CIRCLE)) INVERTED(EXCLAMATION(MARK) INTERROBANG LAZY(S) LOW(KAVYKA(.
  WITH(KAVYKA(ABOVE)))) OHM(SIGN) PENTAGRAM QUESTION(MARK) UNDERTIE) INVISIBLE(PLUS SEPARATOR
  TIMES) IZAKAYA(LANTERN)"

def letterJ : String := "
  JACK-O-LANTERN JAPANESE(BANK(SYMBOL) CASTLE DOLLS GOBLIN INDUSTRIAL(STANDARD(SYMBOL)) OGRE
  POST(OFFICE) SYMBOL(FOR(BEGINNER))) JAR JAVANESE(CONSONANT(SIGN(CAKRA KERET PENGKAL))
  DIGIT(EIGHT FIVE FOUR NINE ONE SEVEN SIX THREE TWO ZERO) LEFT(RERENGGAN) LETTER(A AI BA(.
  MURDA) CA(. MURDA) DA(. MAHAPRANA) DDA(. MAHAPRANA) E GA(. MURDA) HA I(. KAWI) II JA(.
  MAHAPRANA) KA(. MURDA SASAK) LA MA NA(. MURDA) NGA(. LELET(. RASWADI)) NYA(. MURDA) O PA(.
  CEREK MURDA) RA(. AGUNG) SA(. MAHAPRANA MURDA) TA(. MURDA) TTA(. MAHAPRANA) U WA YA)
  PADA(ADEG(. ADEG) ANDAP ISEN-ISEN LINGSA LUHUR LUNGSI MADYA PANGKAT PISELEH TIRTA(TUMETES)
  WINDU) PANGKON PANGRANGKEP RIGHT(RERENGGAN) SIGN(CECAK(. TELU) LAYAR PANYANGGA WIGNYAN)
  TURNED(PADA(PISELEH)) VOWEL(SIGN(DIRGA(MURE) PEPET SUKU(. MENDUT) TALING TARUNG TOLONG WULU(.
  MELIK)))) JEANS JIGSAW(PUZZLE(PIECE)) JOIN JOYSTICK JUGGLING JUNO JUPITER"

def letterK : String := "
  KAABA KAITHI(ABBREVIATION(SIGN) DANDA DOUBLE(DANDA SECTION(MARK)) ENUMERATION(SIGN) LETTER(A
  AA AI AU BA BHA CA CHA DA DDA DDDHA DDHA DHA E GA GHA HA I II JA JHA KA KHA LA MA NA NGA NNA
  NYA O PA PHA RA RHA SA SHA SSA TA THA TTA TTHA U UU VA YA) NUMBER(SIGN(. ABOVE))
  SECTION(MARK) SIGN(ANUSVARA CANDRABINDU NUKTA VIRAMA VISARGA) VOWEL(SIGN(AA AI AU E I II O U
  UU VOCALIC(R)))) KANGAROO KANGXI(RADICAL(AGAIN AND ARRIVE ARROW AXE BADGER BAMBOO BEAN BIG
  BIRD BITTER BLACK BLOOD BLUE BOAT BODY BOLT(OF(CLOTH)) BONE BOW BRANCH BRISTLE BRUSH CART
  CAULDRON CAVE CHILD CITY CLAN CLAW CLIFF CLOTHES COLOR COMPARE CORPSE COVER COW DEATH DEER
  DIPPER DISH DISTINGUISH DIVINATION DO(NOT) DOG DOOR DOT DOTTED(CLIFF TENT) DOUBLE(X)
  DOWN(BOX) DRAGON DRUM DRY EAR EARTH EAT EIGHT EMBROIDERY ENCLOSURE ENTER EVEN EVENING EYE
  FACE FANG FATHER FEATHER FIELD FIGHT FIRE FISH FLUTE FLY FOOT FRAGRANT FROG FUR GATE GHOST
  GO(. SLOWLY) GOLD GRAIN GRASS HAIR HALBERD HALF(TREE(TRUNK)) HAND HEAD HEART HEMP
  HIDING(ENCLOSURE) HOOK HORN HORSE ICE INCH INSECT JADE JAR KNIFE LACK LAME LEAF LEATHER LEEK
  LEGS LID LIFE LINE LONG(. STRIDE) MAN MEAT MELON MILLET MINISTER MOON MORNING MORTAR MOUND
  MOUNTAIN MOUTH NET NOSE NOT OLD ONE ONESELF OPEN(BOX) OPPOSE PIG PLOW POWER PRIVATE PROFOUND
  RAIN RAP RAT RED RICE RIGHT(OPEN(BOX)) RIVER ROOF RUN SACRIFICIAL(WINE) SALT SAY SCHOLAR
  SCRIPT SEAL SECOND SEE SELF SHEEP SHELL SHOOT SHORT(TAILED(BIRD) THREAD) SICKNESS SILK SKIN
  SLASH SLAVE SLICE SMALL SNOUT SOUND SPEAR SPEECH SPIRIT SPOON SPROUT SQUARE STAND STEAM STEP
  STONE STOP STOPPING SUN SWEET TABLE TALL TANNED(LEATHER) TEN TIGER TILE TONGUE TOOTH TRACK
  TREE TRIPOD TURBAN TURTLE TWO(. HANDS) USE VALLEY VILLAGE WALK(. ENCLOSURE) WATER WEAPON WEST
  WHEAT WHITE WIND WINE WOMAN WORK WRAP WRONG YELLOW)) KANNADA(AI(LENGTH(MARK)) DIGIT(EIGHT
  FIVE FOUR NINE ONE SEVEN SIX THREE TWO ZERO) LENGTH(MARK) LETTER(A AA AI AU BA BHA CA CHA DA
  DDA DDHA DHA E EE FA GA GHA HA I II JA JHA KA KHA LA LLA LLLA MA NA NAKAARA(POLLU) NGA NNA
  NYA O OO PA PHA RA RRA SA SHA SSA TA THA TTA TTHA U UU VA VOCALIC(L LL R RR) YA)
  SIGN(ANUSVARA AVAGRAHA CANDRABINDU JIHVAMULIYA NUKTA SIDDHAM SPACING(CANDRABINDU) UPADHMANIYA
  VIRAMA VISARGA) VOWEL(SIGN(AA AI AU E EE I II O OO U UU VOCALIC(L LL R RR))))
  KATAKANA(DIGRAPH(KOTO) ITERATION(MARK) LETTER(A ARCHAIC(E WU YE YI) BA BE BI BO BU DA DE DI
  DO DU E GA GE GI GO GU HA HE HI HO HU I KA KE KI KO KU MA ME MI MINNAN(NASALIZED(TONE-1
  TONE-2 TONE-3 TONE-4 TONE-5 TONE-7 TONE-8) TONE-2 TONE-3 TONE-4 TONE-5 TONE-7 TONE-8) MO MU N
  NA NE NI NO NU O PA PE PI PO PU RA RE RI RO RU SA SE SI SMALL(A E HA HE HI HO HU I KA KE KU
  MU N NU O RA RE RI RO RU SI SU TO TU U WA WE WI WO YA YO YU) SO SU TA TE TI TO TU U VA VE VI
  VO VU WA WE WI WO YA YO YU ZA ZE ZI ZO ZU) MIDDLE(DOT) VOICED(ITERATION(MARK)))
  KATAKANA-HIRAGANA(DOUBLE(HYPHEN) PROLONGED(SOUND(MARK)) SEMI-VOICED(SOUND(MARK))
  VOICED(SOUND(MARK))) KAYAH(LI(DIGIT(EIGHT FIVE FOUR NINE ONE SEVEN SIX THREE TWO ZERO)
  LETTER(A BA CA DA GA HA HTA I KA KHA LA MA NA NGA NYA OE OO PA PHA RA SA SHA TA THA VA WA YA
  ZA) SIGN(CWI SHYA) TONE(CALYA(. PLOPHU) PLOPHU) VOWEL(E EE O U UE))) KELVIN(SIGN) KEY
  KEYBOARD(. AND(MOUSE)) KEYCAP(TEN) KHAROSHTHI(DIGIT(FOUR ONE THREE TWO) FRACTION(ONE(HALF))
  LETTER(A BA BHA CA CHA DA DDA DDHA DHA GA GHA HA JA KA KHA KKA LA MA NA NNA NYA PA PHA RA SA
  SHA SSA TA THA TTA TTHA TTTA TTTHA VA VHA YA ZA) NUMBER(ONE(HUNDRED THOUSAND) TEN TWENTY)
  PUNCTUATION(CIRCLE CRESCENT(BAR) DANDA DOT DOUBLE(DANDA) LINES LOTUS MANGALAM SMALL(CIRCLE))
  SIGN(ANUSVARA BAR(ABOVE) CAUDA DOT(BELOW) DOUBLE(RING(BELOW)) VISARGA) VIRAMA
  VOWEL(LENGTH(MARK) SIGN(E I O U VOCALIC(R)))) KHITAN(SMALL(SCRIPT(FILLER)))
  KHMER(CURRENCY(SYMBOL(RIEL)) DIGIT(EIGHT FIVE FOUR NINE ONE SEVEN SIX THREE TWO ZERO)
  INDEPENDENT(VOWEL(LY LYY QAA QAI QAQ QAU QE QI QII QOO(TYPE(ONE TWO)) QU QUK QUU QUUV RY
  RYY)) LETTER(BA CA CHA CHO CO DA DO HA KA KHA KHO KO LA LO MO NGO NNO NO NYO PHA PHO PO QA RO
  SA SHA SSO TA THA THO TO TTHA TTHO VO YO) SIGN(AHSDA ATTHACAN AVAKRAHASANYA BANTOC BARIYOOSAN
  BATHAMASAT BEYYAL CAMNUC(PII(KUUH)) COENG KAKABAT KHAN KOOMUUT LEK(TOO) MUUSIKATOAN NIKAHIT
  PHNAEK(MUAN) REAHMUK ROBAT SAMYOK(SANNYA) TOANDAKHIAT TRIISAP VIRIAM YUUKALEAPINTU)
  SYMBOL(BEI(KOET ROC) BUON(KOET ROC) DAP(KOET ROC) DAP-BEI(KOET ROC) DAP-BUON(KOET ROC)
  DAP-MUOY(KOET ROC) DAP-PII(KOET ROC) DAP-PRAM(KOET ROC) LEK(ATTAK(BEI BUON MUOY PII PRAM
  PRAM-BEI PRAM-BUON PRAM-MUOY PRAM-PII SON)) MUOY(KOET ROC) PATHAMASAT PII(KOET ROC) PRAM(KOET
  ROC) PRAM-BEI(KOET ROC) PRAM-BUON(KOET ROC) PRAM-MUOY(KOET ROC) PRAM-PII(KOET ROC) TUTEYASAT)
  VOWEL(INHERENT(AA AQ) SIGN(AA AE AI AU E I IE II OE OO U UA UU Y YA YY)))
  KHOJKI(ABBREVIATION(SIGN) DANDA DOUBLE(DANDA SECTION(MARK)) LETTER(A AA AI AU BA BBA BHA CA
  CHA DA DDA DDDA DDHA DHA E GA GGA GHA HA I JA JJA KA KHA LA LLA MA NA NGA NNA NYA O PA PHA RA
  SA TA THA TTA TTHA U VA YA) SECTION(MARK) SIGN(ANUSVARA NUKTA SHADDA SUKUN VIRAMA)
  VOWEL(SIGN(AA AI AU E I II O U)) WORD(SEPARATOR)) KHUDAWADI(DIGIT(EIGHT FIVE FOUR NINE ONE
  SEVEN SIX THREE TWO ZERO) LETTER(A AA AI AU BA BBA BHA CA CHA DA DDA DDDA DDHA DHA E GA GGA
  GHA HA I II JA JHA JJA KA KHA LA MA NA NGA NNA NYA O PA PHA RA RRA SA SHA TA THA TTA TTHA U
  UU VA YA) SIGN(ANUSVARA NUKTA VIRAMA) VOWEL(SIGN(AA AI AU E I II O U UU))) KIMONO KIP(SIGN)
  KISS(. MARK) KISSING(CAT(FACE(WITH(CLOSED(EYES)))) FACE(. WITH(CLOSED(EYES) SMILING(EYES))))
  KITE KIWIFRUIT KNEELING(PERSON) KNOT KOALA KOREAN(STANDARD(SYMBOL)) KRONOS"

def letterL : String := "
  L(B(BAR(SYMBOL))) LAB(COAT) LABEL LACROSSE(STICK(AND(BALL))) LADDER LADY(BEETLE)
  LANGUAGE(TAG) LAO(CANCELLATION(MARK) DIGIT(EIGHT FIVE FOUR NINE ONE SEVEN SIX THREE TWO ZERO)
  ELLIPSIS HO(MO NO) KO(LA) LETTER(BO CO DO FO(FAY FON SUNG TAM) HO(SUNG TAM) KHMU(GO NYO)
  KHO(SUNG TAM) KO LO(. LING LOOT) MO NGO NO NYO O PALI(BHA CHA DDA DDHA DHA GHA JHA LLA NNA
  NYA TTA TTHA) PHO(SUNG TAM) PO RO SANSKRIT(SHA SSA) SO(SUNG TAM) THO(SUNG TAM) TO WO YO)
  NIGGAHITA SEMIVOWEL(SIGN(LO NYO)) SIGN(PALI(VIRAMA)) TONE(MAI(CATAWA EK THO TI)) VOWEL(SIGN(A
  AA AI AM AY E EI I II MAI(KAN KON) O U UU Y YY))) LARGE(BLUE(CIRCLE DIAMOND SQUARE)
  BROWN(CIRCLE SQUARE) CIRCLE DOWN(TACK) GREEN(CIRCLE SQUARE) LEFT(TRIANGLE(OPERATOR))
  ONE(DOT(OVER(TWO(DOTS(PUNCTUATION)))) RING(OVER(TWO(RINGS(PUNCTUATION))))) ORANGE(CIRCLE
  DIAMOND SQUARE) PURPLE(CIRCLE SQUARE) RED(CIRCLE SQUARE) TRIPLE(VERTICAL(BAR(OPERATOR)))
  TWO(DOTS(OVER(ONE(DOT(PUNCTUATION)))) RINGS(OVER(ONE(RING(PUNCTUATION))))) UP(TACK)
  YELLOW(CIRCLE SQUARE)) LARGER(THAN(. OR(EQUAL(TO)))) LARI(SIGN) LAST(QUARTER(MOON(. SYMBOL
  WITH(FACE)))) LATIN(CAPITAL(LETTER(A(. WITH(ACUTE BREVE(. AND(ACUTE DOT(BELOW) GRAVE
  HOOK(ABOVE) TILDE)) CARON CIRCUMFLEX(. AND(ACUTE DOT(BELOW) GRAVE HOOK(ABOVE) TILDE))
  DIAERESIS(. AND(MACRON)) DOT(ABOVE(. AND(MACRON)) BELOW) DOUBLE(GRAVE) GRAVE HOOK(ABOVE)
  INVERTED(BREVE) MACRON OGONEK RING(ABOVE(. AND(ACUTE)) BELOW) STROKE TILDE)) AA AE(.
  WITH(ACUTE MACRON)) AFRICAN(D) ALPHA ANGLICANA(W) AO AU AV(. WITH(HORIZONTAL(BAR))) AY B(.
  WITH(DOT(ABOVE BELOW) FLOURISH HOOK LINE(BELOW) STROKE TOPBAR)) BETA BROKEN(L) C(. WITH(ACUTE
  BAR CARON CEDILLA(. AND(ACUTE)) CIRCUMFLEX DOT(ABOVE) HOOK PALATAL(HOOK) STROKE)) CHI
  CLOSED(INSULAR(G)) CON CUATRILLO(. WITH(COMMA)) D(. WITH(CARON CEDILLA CIRCUMFLEX(BELOW)
  DOT(ABOVE BELOW) HOOK LINE(BELOW) SHORT(STROKE(OVERLAY)) SMALL(LETTER(Z(. WITH(CARON))))
  STROKE TOPBAR)) DZ(. WITH(CARON)) E(. WITH(ACUTE BREVE CARON CEDILLA(. AND(BREVE))
  CIRCUMFLEX(. AND(ACUTE DOT(BELOW) GRAVE HOOK(ABOVE) TILDE) BELOW) DIAERESIS DOT(ABOVE BELOW)
  DOUBLE(GRAVE) GRAVE HOOK(ABOVE) INVERTED(BREVE) MACRON(. AND(ACUTE GRAVE)) OGONEK STROKE
  TILDE(. BELOW))) EGYPTOLOGICAL(AIN ALEF) ENG ESH ET ETH EZH(. REVERSED WITH(CARON)) F(.
  WITH(DOT(ABOVE) HOOK STROKE)) G(. WITH(ACUTE BREVE CARON CEDILLA CIRCUMFLEX DOT(ABOVE) HOOK
  MACRON OBLIQUE(STROKE) STROKE)) GAMMA GHA GLOTTAL(A I STOP U) H(. WITH(BREVE(BELOW) CARON
  CEDILLA CIRCUMFLEX DESCENDER DIAERESIS DOT(ABOVE BELOW) HOOK STROKE)) HALF(H) HENG HWAIR I(.
  WITH(ACUTE BREVE CARON CIRCUMFLEX DIAERESIS(. AND(ACUTE)) DOT(ABOVE BELOW) DOUBLE(GRAVE)
  GRAVE HOOK(ABOVE) INVERTED(BREVE) MACRON OGONEK STROKE TILDE(. BELOW))) INSULAR(D F G R S T)
  IOTA IS J(. WITH(CIRCUMFLEX CROSSED-TAIL STROKE)) K(. WITH(ACUTE CARON CEDILLA DESCENDER
  DIAGONAL(STROKE) DOT(BELOW) HOOK LINE(BELOW) OBLIQUE(STROKE) STROKE(.
  AND(DIAGONAL(STROKE))))) L(. WITH(ACUTE BAR BELT CARON CEDILLA CIRCUMFLEX(BELOW) DOT(BELOW(.
  AND(MACRON))) DOUBLE(BAR) HIGH(STROKE) LINE(BELOW) MIDDLE(DOT TILDE) SMALL(LETTER(J))
  STROKE)) LJ M(. WITH(ACUTE DOT(ABOVE BELOW) HOOK)) MIDDLE(SCOTS(S)) MIDDLE-WELSH(LL V) N(.
  WITH(ACUTE CARON CEDILLA CIRCUMFLEX(BELOW) DESCENDER DOT(ABOVE BELOW) GRAVE LEFT(HOOK)
  LINE(BELOW) LONG(RIGHT(LEG)) OBLIQUE(STROKE) SMALL(LETTER(J)) TILDE)) NJ O(. WITH(ACUTE BREVE
  CARON CIRCUMFLEX(. AND(ACUTE DOT(BELOW) GRAVE HOOK(ABOVE) TILDE)) DIAERESIS(. AND(MACRON))
  DOT(ABOVE(. AND(MACRON)) BELOW) DOUBLE(ACUTE GRAVE) GRAVE HOOK(ABOVE) HORN(. AND(ACUTE
  DOT(BELOW) GRAVE HOOK(ABOVE) TILDE)) INVERTED(BREVE) LONG(STROKE(OVERLAY)) LOOP MACRON(.
  AND(ACUTE GRAVE)) MIDDLE(TILDE) OGONEK(. AND(MACRON)) STROKE(. AND(ACUTE)) TILDE(. AND(ACUTE
  DIAERESIS MACRON)))) OI OLD(POLISH(O)) OMEGA OO OPEN(E O) OU P(. WITH(ACUTE DOT(ABOVE)
  FLOURISH HOOK SQUIRREL(TAIL) STROKE(. THROUGH(DESCENDER)))) Q(. WITH(DIAGONAL(STROKE)
  STROKE(THROUGH(DESCENDER)))) R(. ROTUNDA WITH(ACUTE CARON CEDILLA DOT(ABOVE BELOW(.
  AND(MACRON))) DOUBLE(GRAVE) INVERTED(BREVE) LINE(BELOW) OBLIQUE(STROKE) STROKE TAIL))
  REVERSED(C(WITH(DOT)) E HALF(H) OPEN(E)) RUM(ROTUNDA) S(. WITH(ACUTE(. AND(DOT(ABOVE)))
  CARON(. AND(DOT(ABOVE))) CEDILLA CIRCUMFLEX COMMA(BELOW) DOT(ABOVE BELOW(. AND(DOT(ABOVE))))
  HOOK OBLIQUE(STROKE) SHORT(STROKE(OVERLAY)) SWASH(TAIL))) SALTILLO SCHWA SCRIPT(G) SHARP(S)
  SIGMOID(S) SMALL(CAPITAL(I) Q(WITH(HOOK(TAIL)))) T(. WITH(CARON CEDILLA CIRCUMFLEX(BELOW)
  COMMA(BELOW) DIAGONAL(STROKE) DOT(ABOVE BELOW) HOOK LINE(BELOW) RETROFLEX(HOOK) STROKE))
  THORN(. WITH(STROKE(. THROUGH(DESCENDER)))) TONE(FIVE SIX TWO) TRESILLO TURNED(A ALPHA H
  INSULAR(G) K L M T V) TZ U(. BAR WITH(ACUTE BREVE CARON CIRCUMFLEX(. BELOW) DIAERESIS(.
  AND(ACUTE CARON GRAVE MACRON) BELOW) DOT(BELOW) DOUBLE(ACUTE GRAVE) GRAVE HOOK(ABOVE) HORN(.
  AND(ACUTE DOT(BELOW) GRAVE HOOK(ABOVE) TILDE)) INVERTED(BREVE) MACRON(. AND(DIAERESIS))
  OGONEK RING(ABOVE) STROKE TILDE(. AND(ACUTE) BELOW))) UPSILON V(. WITH(DIAGONAL(STROKE)
  DOT(BELOW) HOOK TILDE)) VEND VISIGOTHIC(Z) VOLAPUK(AE OE UE) VY W(. WITH(ACUTE CIRCUMFLEX
  DIAERESIS DOT(ABOVE BELOW) GRAVE HOOK)) WYNN X(. WITH(DIAERESIS DOT(ABOVE))) Y(. WITH(ACUTE
  CIRCUMFLEX DIAERESIS DOT(ABOVE BELOW) GRAVE HOOK(. ABOVE) LOOP MACRON STROKE TILDE)) YOGH Z(.
  WITH(ACUTE CARON CIRCUMFLEX DESCENDER DOT(ABOVE BELOW) HOOK LINE(BELOW) PALATAL(HOOK) STROKE
  SWASH(TAIL)))) LIGATURE(IJ OE)) CROSS EPIGRAPHIC(LETTER(ARCHAIC(M) I(LONGA) INVERTED(M)
  REVERSED(F P) SIDEWAYS(I))) LETTER(AIN ALVEOLAR(CLICK) BIDENTAL(PERCUSSIVE) BILABIAL(CLICK
  PERCUSSIVE) DENTAL(CLICK) GLOTTAL(STOP(. WITH(STROKE))) INVERTED(GLOTTAL(STOP(. WITH(CURL
  STROKE)))) LATERAL(CLICK) PHARYNGEAL(VOICED(FRICATIVE)) RETROFLEX(CLICK(.
  WITH(RETROFLEX(HOOK)))) REVERSED(ESH(LOOP) GLOTTAL(STOP(WITH(STROKE)))) SINOLOGICAL(DOT)
  SMALL(CAPITAL(A AE B BARRED(B) C D E ETH EZH F G(. WITH(HOOK)) H I INVERTED(R) J K L(.
  WITH(BELT STROKE)) M N O OE OPEN(O) OU P Q R(. WITH(RIGHT(LEG))) REVERSED(N R) RUM S T
  TURNED(E G K M R) U V W Y Z)) STRETCHED(C(. WITH(CURL))) TWO(WITH(STROKE))
  VOICED(LARYNGEAL(SPIRANT)) WYNN YR) SMALL(CAPITAL(LETTER(I(WITH(STROKE)) U(WITH(STROKE))))
  LETTER(A(. REVERSED-SCHWA WITH(ACUTE BREVE(. AND(ACUTE DOT(BELOW) GRAVE HOOK(ABOVE) TILDE))
  CARON CIRCUMFLEX(. AND(ACUTE DOT(BELOW) GRAVE HOOK(ABOVE) TILDE)) DIAERESIS(. AND(MACRON))
  DOT(ABOVE(. AND(MACRON)) BELOW) DOUBLE(GRAVE) GRAVE HOOK(ABOVE) INVERTED(BREVE) MACRON OGONEK
  RETROFLEX(HOOK) RIGHT(HALF(RING)) RING(ABOVE(. AND(ACUTE)) BELOW) STROKE TILDE)) AA AE(.
  WITH(ACUTE MACRON)) ALPHA(. WITH(RETROFLEX(HOOK))) ANGLICANA(W) AO AU AV(.
  WITH(HORIZONTAL(BAR))) AY B(. WITH(DOT(ABOVE BELOW) FLOURISH HOOK LINE(BELOW) MIDDLE(TILDE)
  PALATAL(HOOK) STROKE TOPBAR)) BARRED(ALPHA E O) BASELINE(ESH) BETA BLACKLETTER(E O(.
  WITH(STROKE))) BOTTOM(HALF(O)) BROKEN(L) C(. WITH(ACUTE BAR CARON CEDILLA(. AND(ACUTE))
  CIRCUMFLEX CURL DOT(ABOVE) HOOK PALATAL(HOOK) RETROFLEX(HOOK) STROKE)) CHI(.
  WITH(LOW(LEFT(SERIF) RIGHT(RING)))) CLOSED(INSULAR(G) OMEGA OPEN(E) REVERSED(OPEN(E))) CON
  CUATRILLO(. WITH(COMMA)) D(. WITH(CARON CEDILLA CIRCUMFLEX(BELOW) CURL DOT(ABOVE BELOW)
  HOOK(. AND(TAIL)) LINE(BELOW) MIDDLE(TILDE) PALATAL(HOOK) SHORT(STROKE(OVERLAY)) STROKE TAIL
  TOPBAR)) DB(DIGRAPH) DELTA DEZH(DIGRAPH(. WITH(PALATAL(HOOK) RETROFLEX(HOOK)))) DOTLESS(I J(.
  WITH(STROKE(. AND(HOOK))))) DOUBLE(R(. WITH(CROSSED-TAIL)) THORN WYNN) DUM DZ(. DIGRAPH(.
  WITH(CURL RETROFLEX(HOOK))) WITH(CARON)) E(. WITH(ACUTE BREVE CARON CEDILLA(. AND(BREVE))
  CIRCUMFLEX(. AND(ACUTE DOT(BELOW) GRAVE HOOK(ABOVE) TILDE) BELOW) DIAERESIS DOT(ABOVE BELOW)
  DOUBLE(GRAVE) FLOURISH GRAVE HOOK(ABOVE) INVERTED(BREVE) MACRON(. AND(ACUTE GRAVE)) NOTCH
  OGONEK RETROFLEX(HOOK) STROKE TILDE(. BELOW))) EGYPTOLOGICAL(AIN ALEF) ENG(.
  WITH(CROSSED-TAIL PALATAL(HOOK))) ESH(. WITH(CURL DOUBLE(BAR(. AND(CURL))) PALATAL(HOOK)
  RETROFLEX(HOOK))) ET ETH EZH(. REVERSED WITH(CARON CURL PALATAL(HOOK) RETROFLEX(HOOK) TAIL))
  F(. WITH(DOT(ABOVE) HOOK MIDDLE(TILDE) PALATAL(HOOK) STROKE)) FENG(DIGRAPH(. WITH(TRILL)))
  G(. WITH(ACUTE BREVE CARON CEDILLA CIRCUMFLEX DOT(ABOVE) HOOK MACRON OBLIQUE(STROKE)
  PALATAL(HOOK) STROKE)) GAMMA GHA GLOTTAL(A I STOP U) H(. WITH(BREVE(BELOW) CARON CEDILLA
  CIRCUMFLEX DESCENDER DIAERESIS DOT(ABOVE BELOW) HOOK LINE(BELOW) PALATAL(HOOK) STROKE))
  HALF(H) HENG(. WITH(HOOK)) HV I(. WITH(ACUTE BREVE CARON CIRCUMFLEX DIAERESIS(. AND(ACUTE))
  DOT(BELOW) DOUBLE(GRAVE) GRAVE HOOK(ABOVE) INVERTED(BREVE) MACRON OGONEK RETROFLEX(HOOK)
  STROKE(. AND(RETROFLEX(HOOK))) TILDE(. BELOW))) INSULAR(D F G R S T) INVERTED(ALPHA OE)
  IOTA(. WITH(STROKE)) IOTIFIED(E) IS J(. WITH(CARON CIRCUMFLEX CROSSED-TAIL STROKE)) K(.
  WITH(ACUTE CARON CEDILLA DESCENDER DIAGONAL(STROKE) DOT(BELOW) HOOK LINE(BELOW)
  OBLIQUE(STROKE) PALATAL(HOOK) STROKE(. AND(DIAGONAL(STROKE))))) KRA L(. WITH(ACUTE BAR BELT(.
  AND(PALATAL(HOOK))) CARON CEDILLA CIRCUMFLEX(BELOW) CURL DOT(BELOW(. AND(MACRON))) DOUBLE(BAR
  MIDDLE(TILDE)) FISHHOOK HIGH(STROKE) INVERTED(LAZY(S)) LINE(BELOW) MIDDLE(DOT RING TILDE)
  PALATAL(HOOK) RETROFLEX(HOOK(. AND(BELT))) STROKE)) LAMBDA(WITH(STROKE)) LENIS(F) LEZH(.
  WITH(RETROFLEX(HOOK))) LJ LONG(S(. WITH(DIAGONAL(STROKE) DOT(ABOVE) HIGH(STROKE))))
  LS(DIGRAPH) LUM LZ(DIGRAPH) M(. WITH(ACUTE CROSSED-TAIL DOT(ABOVE BELOW) HOOK MIDDLE(TILDE)
  PALATAL(HOOK))) MIDDLE(SCOTS(S)) MIDDLE-WELSH(LL V) MUM N(. PRECEDED(BY(APOSTROPHE))
  WITH(ACUTE CARON CEDILLA CIRCUMFLEX(BELOW) CROSSED-TAIL CURL DESCENDER DOT(ABOVE BELOW) GRAVE
  LEFT(HOOK) LINE(BELOW) LONG(RIGHT(LEG)) MIDDLE(TILDE) OBLIQUE(STROKE) PALATAL(HOOK)
  RETROFLEX(HOOK) TILDE)) NJ NUM O(. WITH(ACUTE BREVE CARON CIRCUMFLEX(. AND(ACUTE DOT(BELOW)
  GRAVE HOOK(ABOVE) TILDE)) DIAERESIS(. AND(MACRON)) DOT(ABOVE(. AND(MACRON)) BELOW)
  DOUBLE(ACUTE GRAVE) GRAVE HOOK(ABOVE) HORN(. AND(ACUTE DOT(BELOW) GRAVE HOOK(ABOVE) TILDE))
  INVERTED(BREVE) LONG(STROKE(OVERLAY)) LOOP LOW(RING(INSIDE)) MACRON(. AND(ACUTE GRAVE))
  OGONEK(. AND(MACRON)) RETROFLEX(HOOK) STROKE(. AND(ACUTE)) TILDE(. AND(ACUTE DIAERESIS
  MACRON)))) OI OLD(POLISH(O)) OMEGA OO OPEN(E(. WITH(RETROFLEX(HOOK))) O(.
  WITH(RETROFLEX(HOOK) STROKE)) OE) OU P(. WITH(ACUTE DOT(ABOVE) FLOURISH HOOK MIDDLE(TILDE)
  PALATAL(HOOK) SQUIRREL(TAIL) STROKE(. THROUGH(DESCENDER)))) PHI Q(. WITH(DIAGONAL(STROKE)
  HOOK(. TAIL) STROKE(THROUGH(DESCENDER)))) QP(DIGRAPH) R(. ROTUNDA WITH(ACUTE CARON CEDILLA
  CROSSED-TAIL DOT(ABOVE BELOW(. AND(MACRON))) DOUBLE(GRAVE) FISHHOOK(. AND(MIDDLE(TILDE)
  PALATAL(HOOK))) INVERTED(BREVE) LINE(BELOW) LONG(LEG) MIDDLE(TILDE) OBLIQUE(STROKE)
  PALATAL(HOOK) STROKE TAIL) WITHOUT(HANDLE)) RAMS(HORN) REVERSED(C(. WITH(DOT)) E ENG HALF(H)
  K OPEN(E(. WITH(HOOK RETROFLEX(HOOK)))) R(WITH(FISHHOOK)) SCRIPT(G)) RUM(. ROTUNDA) S(.
  WITH(ACUTE(. AND(DOT(ABOVE))) CARON(. AND(DOT(ABOVE))) CEDILLA CIRCUMFLEX COMMA(BELOW) CURL
  DOT(ABOVE BELOW(. AND(DOT(ABOVE)))) HOOK MIDDLE(TILDE) OBLIQUE(STROKE) PALATAL(HOOK)
  SHORT(STROKE(OVERLAY)) SWASH(TAIL))) SAKHA(YAT) SALTILLO SCHWA(. WITH(HOOK RETROFLEX(HOOK)))
  SCRIPT(G(. WITH(CROSSED-TAIL)) R(. WITH(RING))) SHARP(S) SIDEWAYS(DIAERESIZED(U) O(.
  WITH(STROKE)) OPEN(O) TURNED(M) U) SIGMOID(S) SQUAT(REVERSED(ESH)) STIRRUP(R) T(. WITH(CARON
  CEDILLA CIRCUMFLEX(BELOW) COMMA(BELOW) CURL DIAERESIS DIAGONAL(STROKE) DOT(ABOVE BELOW)
  HOOK(. AND(RETROFLEX(HOOK))) LINE(BELOW) MIDDLE(TILDE) PALATAL(HOOK) RETROFLEX(HOOK) STROKE))
  TAILLESS(PHI) TC(DIGRAPH(WITH(CURL))) TESH(DIGRAPH(. WITH(PALATAL(HOOK) RETROFLEX(HOOK))))
  TH(WITH(STRIKETHROUGH)) THORN(. WITH(STROKE(. THROUGH(DESCENDER)))) TONE(FIVE SIX TWO)
  TOP(HALF(O)) TRESILLO TS(DIGRAPH(. WITH(RETROFLEX(HOOK)))) TUM TURNED(A AE ALPHA DELTA E G
  H(. WITH(FISHHOOK(. AND(TAIL)))) I INSULAR(G) K L M(. WITH(LONG(LEG))) O(OPEN-O(.
  WITH(STROKE))) OE(. WITH(HORIZONTAL(STROKE) STROKE)) OPEN(E) R(. WITH(HOOK LONG(LEG(.
  AND(RETROFLEX(HOOK)))) MIDDLE(TILDE) PALATAL(HOOK) TAIL)) T(. WITH(CURL)) UI V W Y(.
  WITH(BELT))) TZ U(. BAR(. WITH(SHORT(RIGHT(LEG)))) WITH(ACUTE BREVE CARON CIRCUMFLEX(. BELOW)
  DIAERESIS(. AND(ACUTE CARON GRAVE MACRON) BELOW) DOT(BELOW) DOUBLE(ACUTE GRAVE) GRAVE
  HOOK(ABOVE) HORN(. AND(ACUTE DOT(BELOW) GRAVE HOOK(ABOVE) TILDE)) INVERTED(BREVE) LEFT(HOOK)
  MACRON(. AND(DIAERESIS)) OGONEK RETROFLEX(HOOK) RING(ABOVE) SHORT(RIGHT(LEG)) STROKE TILDE(.
  AND(ACUTE) BELOW))) UE UI UM UO UPSILON(. WITH(STROKE)) V(. WITH(CURL DIAGONAL(STROKE)
  DOT(BELOW) HOOK PALATAL(HOOK) RIGHT(HOOK) TILDE)) VEND VISIGOTHIC(Z) VOLAPUK(AE OE UE) VY W(.
  WITH(ACUTE CIRCUMFLEX DIAERESIS DOT(ABOVE BELOW) GRAVE HOOK RING(ABOVE))) X(. WITH(DIAERESIS
  DOT(ABOVE) LONG(LEFT(LEG(. AND(LOW(RIGHT(RING))) WITH(SERIF)))) LOW(RIGHT(RING))
  PALATAL(HOOK))) Y(. WITH(ACUTE CIRCUMFLEX DIAERESIS DOT(ABOVE BELOW) GRAVE HOOK(. ABOVE) LOOP
  MACRON RING(ABOVE) SHORT(RIGHT(LEG)) STROKE TILDE)) YOGH Z(. WITH(ACUTE CARON CIRCUMFLEX CURL
  DESCENDER DOT(ABOVE BELOW) HOOK LINE(BELOW) MIDDLE(TILDE) PALATAL(HOOK) RETROFLEX(HOOK)
  STROKE SWASH(TAIL)))) LIGATURE(FF FFI FFL FI FL IJ LONG(S(T)) OE ST))
  SUBSCRIPT(SMALL(LETTER(A E H I J K L M N O P R S SCHWA T U V X)))) LEAF(FLUTTERING(IN(WIND)))
  LEAFY(GREEN) LEDGER LEFT(AND(LOWER(AND(RIGHT(TRIANGULAR(THREE(QUARTERS(BLOCK)))))
  ONE(EIGHTH(BLOCK))) RIGHT(DOUBLE(TURNSTILE) TACK TRIANGULAR(HALF(BLOCK)))
  UPPER(AND(RIGHT(TRIANGULAR(THREE(QUARTERS(BLOCK))))) ONE(EIGHTH(BLOCK)))) ANGER(BUBBLE)
  ANGLE(BRACKET(. WITH(DOT))) ARC(LESS-THAN(BRACKET)) ARROW(WITH(CIRCLED(PLUS) SMALL(CIRCLE)))
  BARB(DOWN(RIGHT(BARB(DOWN(HARPOON) UP(HARPOON)))) UP(RIGHT(BARB(DOWN(HARPOON) UP(HARPOON)))))
  BLACK(LENTICULAR(BRACKET) TORTOISE(SHELL(BRACKET))) CEILING CLOSED(ENTRY) CORNER(BRACKET)
  CURLY(BRACKET(. LOWER(HOOK) MIDDLE(PIECE) UPPER(HOOK))) DOTTED(SUBSTITUTION(BRACKET))
  DOUBLE(ANGLE(BRACKET) PARENTHESIS QUOTATION(MARK) WIGGLY(FENCE)) FISH(TAIL)
  FIVE(EIGHTHS(BLOCK)) FLOOR HALF(BLACK(CIRCLE STAR) BLOCK CIRCLE(. WITH(DOT FOUR(DOTS)
  THREE(DOTS) TWO(DOTS))) FOLDER INVERSE(MEDIUM(SHADE(AND(RIGHT(HALF(BLOCK)))))) MEDIUM(SHADE)
  RUNNING(MAN)) HAND(TELEPHONE(RECEIVER)) LOW(PARAPHRASE(BRACKET)) LUGGAGE MULTIMAP
  NORMAL(FACTOR(SEMIDIRECT(PRODUCT))) ONE(EIGHTH(BLOCK) QUARTER(BLOCK)) OUTER(JOIN)
  PARENTHESIS(. EXTENSION LOWER(HOOK) UPPER(HOOK)) RAISED(OMISSION(BRACKET)) RIGHT(ARROW(.
  THROUGH(SMALL(CIRCLE)) WITH(DOUBLE(VERTICAL(STROKE)) STROKE VERTICAL(STROKE))) BLACK(ARROW)
  DOUBLE(ARROW(. WITH(STROKE VERTICAL(STROKE)))) OPEN-HEADED(ARROW) SANS-SERIF(ARROW)
  TRIANGLE-HEADED(ARROW) WAVE(ARROW) WHITE(ARROW)) S-SHAPED(BAG(DELIMITER)) SEMIDIRECT(PRODUCT)
  SEVEN(EIGHTHS(BLOCK)) SIDEWAYS(U(BRACKET)) SINGLE(QUOTATION(MARK)) SPEECH(BUBBLE)
  SQUARE(BRACKET(. EXTENSION LOWER(CORNER) UPPER(CORNER) WITH(DOUBLE(STROKE) QUILL STROKE
  TICK(IN(BOTTOM(CORNER) TOP(CORNER))) UNDERBAR))) SUBSTITUTION(BRACKET) TACK
  THIRD(WHITE(RIGHT(POINTING(INDEX)))) THOUGHT(BUBBLE) THREE(EIGHTHS(BLOCK) QUARTERS(BLOCK))
  TORTOISE(SHELL(BRACKET)) TRANSPOSITION(BRACKET) TRIANGLE(BESIDE(VERTICAL(BAR)))
  TRIANGULAR(ONE(QUARTER(BLOCK))) VERTICAL(BAR(WITH(QUILL)) BOX(LINE)) WHITE(CORNER(BRACKET)
  CURLY(BRACKET) LENTICULAR(BRACKET) PARENTHESIS SQUARE(BRACKET) TORTOISE(SHELL(BRACKET)))
  WIGGLY(FENCE) WRITING(HAND)) LEFT-FACING(ARMENIAN(ETERNITY(SIGN)) FIST SVASTI(SIGN(.
  WITH(DOTS)))) LEFT-HANDED(INTERLACED(PENTAGRAM)) LEFT-POINTING(ANGLE(BRACKET)
  CURVED(ANGLE(BRACKET)) DOUBLE(ANGLE(QUOTATION(MARK))) MAGNIFYING(GLASS))
  LEFT-SHADED(WHITE(RIGHTWARDS(ARROW))) LEFT-SIDE(ARC(ANTICLOCKWISE(ARROW)))
  LEFT-TO-RIGHT(EMBEDDING ISOLATE MARK OVERRIDE) LEFTWARDS(ARROW(. ABOVE(ALMOST(EQUAL(TO))
  REVERSE(ALMOST(EQUAL(TO)) TILDE(OPERATOR)) SHORT(RIGHTWARDS(ARROW)) TILDE(OPERATOR))
  AND(UPPER(AND(LOWER(ONE(EIGHTH(BLOCK)))))) FROM(BAR(. TO(BLACK(DIAMOND))))
  OVER(RIGHTWARDS(ARROW)) THROUGH(LESS-THAN SUBSET X) TO(BAR(.
  OVER(RIGHTWARDS(ARROW(TO(BAR))))) BLACK(DIAMOND)) WITH(DOTTED(STEM) DOUBLE(VERTICAL(STROKE))
  EQUILATERAL(ARROWHEAD) HOOK LARGE(TRIANGLE(ARROWHEAD)) LOOP MEDIUM(TRIANGLE(ARROWHEAD))
  NOTCHED(TAIL) PLUS(BELOW) SMALL(EQUILATERAL(ARROWHEAD) TRIANGLE(ARROWHEAD)) STROKE TAIL(.
  WITH(DOUBLE(VERTICAL(STROKE)) VERTICAL(STROKE))) TIP(DOWNWARDS UPWARDS) VERTICAL(STROKE)))
  ARROW-TAIL BACK-TILTED(SHADOWED(WHITE(ARROW))) BLACK(ARROW CIRCLED(WHITE(ARROW)))
  BOTTOM-SHADED(WHITE(ARROW)) COMPRESSED(ARROW) DASHED(ARROW) DOUBLE(ARROW(. FROM(BAR)
  WITH(STROKE VERTICAL(STROKE))) ARROW-TAIL DASH(ARROW)) FINGER-POST(ARROW)
  FRONT-TILTED(SHADOWED(WHITE(ARROW))) HAND HARPOON(OVER(RIGHTWARDS(HARPOON))
  WITH(BARB(DOWN(ABOVE(RIGHTWARDS(HARPOON(WITH(BARB(DOWN))))) BELOW(LONG(DASH)) FROM(BAR)
  TO(BAR)) DOWNWARDS UP(ABOVE(LEFTWARDS(HARPOON(WITH(BARB(DOWN)))) LONG(DASH)
  RIGHTWARDS(HARPOON(WITH(BARB(UP))))) FROM(BAR) TO(BAR)) UPWARDS))) HEAVY(ARROW
  COMPRESSED(ARROW)) LEFT-SHADED(WHITE(ARROW)) OPEN-HEADED(ARROW) PAIRED(ARROWS)
  QUADRUPLE(ARROW) RIGHT-SHADED(WHITE(ARROW)) ROCKET SANS-SERIF(ARROW) SQUARED(ARROW)
  SQUIGGLE(ARROW) TOP(SHADED(WHITE(ARROW))) TRIANGLE(ARROWHEAD) TRIANGLE-HEADED(ARROW(.
  OVER(RIGHTWARDS(TRIANGLE-HEADED(ARROW))) TO(BAR) WITH(BOLD(SHAFT) DOUBLE(HORIZONTAL(STROKE)
  VERTICAL(STROKE)) HEAVY(SHAFT) LONG(TIP(DOWNWARDS UPWARDS)) MEDIUM(SHAFT) NARROW(SHAFT)
  VERY(HEAVY(SHAFT)))) DASHED(ARROW) PAIRED(ARROWS)) TRIPLE(ARROW DASH(ARROW))
  TWO(HEADED(ARROW)) TWO-HEADED(ARROW(FROM(BAR) WITH(DOUBLE(VERTICAL(STROKE)) TAIL(.
  WITH(DOUBLE(VERTICAL(STROKE)) VERTICAL(STROKE))) TRIANGLE(ARROWHEADS) VERTICAL(STROKE)))
  TRIPLE(DASH(ARROW))) WAVE(ARROW) WHITE(ARROW(. WITHIN(TRIANGLE(ARROWHEAD))))) LEG LEMON LEO
  LEOPARD LEPCHA(CONSONANT(SIGN(K KANG L M N NYIN-DO P R T)) DIGIT(EIGHT FIVE FOUR NINE ONE
  SEVEN SIX THREE TWO ZERO) LETTER(A BA BLA CA CHA DA DDA DZA FA FLA GA GLA HA HLA JA KA KHA
  KLA LA MA MLA NA NGA NYA PA PHA PLA RA SA SHA TA THA TSA TSHA TTA TTHA VA WA YA)
  PUNCTUATION(CER-WA NYET(THYOOM(TA-ROL)) TA-ROL TSHOOK(. CER-WA)) SIGN(NUKTA RAN)
  SUBJOINED(LETTER(RA YA)) VOWEL(SIGN(AA E I O OO U UU)))
  LESS-THAN(ABOVE(DOUBLE-LINE(EQUAL(ABOVE(GREATER-THAN)))
  GREATER-THAN(ABOVE(DOUBLE-LINE(EQUAL))) LEFTWARDS(ARROW) SIMILAR(ABOVE(GREATER-THAN)
  OR(EQUAL)) SLANTED(EQUAL(ABOVE(GREATER-THAN(ABOVE(SLANTED(EQUAL))))))) AND(NOT(APPROXIMATE)
  SINGLE-LINE(NOT(EQUAL(TO)))) BUT(NOT(EQUAL(TO) EQUIVALENT(TO))) CLOSED(BY(CURVE(.
  ABOVE(SLANTED(EQUAL))))) EQUAL(TO(OR(GREATER-THAN))) OR(APPROXIMATE EQUAL(TO) EQUIVALENT(TO)
  GREATER-THAN SLANTED(EQUAL(TO(. WITH(DOT(ABOVE(. RIGHT) INSIDE)))))) OVER(EQUAL(TO)) SIGN
  WITH(CIRCLE(INSIDE) DOT QUESTION(MARK(ABOVE)))) LEVEL(SLIDER) LF LIBRA
  LIGATURE(OPEN(ET(ORNAMENT))) LIGHT(CHECK(MARK) EIGHT(SPOKED(ASTERISK))
  FIVE(POINTED(BLACK(STAR)) SPOKED(ASTERISK)) FOUR(POINTED(BLACK(CUSP STAR))) GREEK(CROSS)
  LEFT(TORTOISE(SHELL(BRACKET(ORNAMENT)))) RAIL RIGHT(TORTOISE(SHELL(BRACKET(ORNAMENT))))
  SALTIRE SHADE SIX(SPOKED(ASTERISK)) THREE(POINTED(BLACK(STAR))) TWELVE(POINTED(BLACK(STAR)))
  VERTICAL(BAR) WHITE(SQUARE)) LIGHTNING(. MOOD(. BUBBLE)) LIMBU(DIGIT(EIGHT FIVE FOUR NINE ONE
  SEVEN SIX THREE TWO ZERO) EXCLAMATION(MARK) LETTER(BA BHA CA CHA DA DHA GA GHA GYAN HA JA JHA
  KA KHA LA MA NA NGA PA PHA RA SA SHA SSA TA THA TRA WA YA YAN) QUESTION(MARK) SIGN(KEMPHRENG
  LOO MUKPHRENG SA-I) SMALL(LETTER(ANUSVARA KA LA MA NA NGA PA RA TA)) SUBJOINED(LETTER(RA WA
  YA)) VOWEL(SIGN(A AI AU E EE I O OO U)) VOWEL-CARRIER(LETTER)) LIMITED(LIABILITY(SIGN))
  LINE(FEED INTEGRATION(NOT(INCLUDING(THE(POLE))) WITH(RECTANGULAR(PATH(AROUND(POLE)))
  SEMICIRCULAR(PATH(AROUND(POLE))))) SEPARATOR TABULATION(. SET)) LINEAR(A(SIGN(A028B A100-102
  A120B A131C A301 A302 A303 A304 A305 A306 A307 A308 A309A A309B A309C A310 A311 A312 A313A
  A313B A313C A314 A315 A316 A317 A318 A319 A320 A321 A322 A323 A324 A325 A326 A327 A328 A329
  A330 A331 A332 A333 A334 A335 A336 A337 A338 A339 A340 A341 A342 A343 A344 A345 A346 A347
  A348 A349 A350 A351 A352 A353 A354 A355 A356 A357 A358 A359 A360 A361 A362 A363 A364 A365
  A366 A367 A368 A369 A370 A371 A400-VAS A401-VAS A402-VAS A403-VAS A404-VAS A405-VAS A406-VAS
  A407-VAS A408-VAS A409-VAS A410-VAS A411-VAS A412-VAS A413-VAS A414-VAS A415-VAS A416-VAS
  A417-VAS A418-VAS A501 A502 A503 A504 A505 A506 A508 A509 A510 A511 A512 A513 A515 A516 A520
  A521 A523 A524 A525 A526 A527 A528 A529 A530 A531 A532 A534 A535 A536 A537 A538 A539 A540
  A541 A542 A545 A547 A548 A549 A550 A551 A552 A553 A554 A555 A556 A557 A559 A563 A564 A565
  A566 A568 A569 A570 A571 A572 A573 A574 A575 A576 A577 A578 A579 A580 A581 A582 A583 A584
  A585 A586 A587 A588 A589 A591 A592 A594 A595 A596 A598 A600 A601 A602 A603 A604 A606 A608
  A609 A610 A611 A612 A613 A614 A615 A616 A617 A618 A619 A620 A621 A622 A623 A624 A626 A627
  A628 A629 A634 A637 A638 A640 A642 A643 A644 A645 A646 A648 A649 A651 A652 A653 A654 A655
  A656 A657 A658 A659 A660 A661 A662 A663 A664 A701(A) A702(B) A703(D) A704(E) A705(F) A706(H)
  A707(J) A708(K) A709(L) A709-2(L2) A709-3(L3) A709-4(L4) A709-6(L6) A710(W) A711(X) A712(Y)
  A713(OMEGA) A714(ABB) A715(BB) A717(DD) A726(EYYY) A732(JE) A800 A801 A802 A803 A804 A805
  A806 A807 AB001 AB002 AB003 AB004 AB005 AB006 AB007 AB008 AB009 AB010 AB011 AB013 AB016 AB017
  AB020 AB021 AB021F AB021M AB022 AB022F AB022M AB023 AB023M AB024 AB026 AB027 AB028 AB029
  AB030 AB031 AB034 AB037 AB038 AB039 AB040 AB041 AB044 AB045 AB046 AB047 AB048 AB049 AB050
  AB051 AB053 AB054 AB055 AB056 AB057 AB058 AB059 AB060 AB061 AB065 AB066 AB067 AB069 AB070
  AB073 AB074 AB076 AB077 AB078 AB079 AB080 AB081 AB082 AB085 AB086 AB087 AB118 AB120 AB122
  AB123 AB131A AB131B AB164 AB171 AB180 AB188 AB191)) B(IDEOGRAM(B100(MAN) B102(WOMAN)
  B104(DEER) B105(EQUID) B105F(MARE) B105M(STALLION) B106F(EWE) B106M(RAM) B107F(SHE-GOAT)
  B107M(HE-GOAT) B108F(SOW) B108M(BOAR) B109F(COW) B109M(BULL) B120(WHEAT) B121(BARLEY)
  B122(OLIVE) B123(SPICE) B125(CYPERUS) B130(OIL) B131(WINE) B132 B140(BRONZE) B141(GOLD) B142
  B145(WOOL) B146 B150 B151(HORN) B152 B153 B154 B157 B158 B159(CLOTH) B160 B161 B162(GARMENT)
  B163(ARMOUR) B164 B165 B166 B167 B168 B169 B170 B171 B172 B173(MONTH) B174 B176(TREE) B177
  B178 B179 B180 B181 B182 B183 B184 B185 B189 B190 B191(HELMET) B220(FOOTSTOOL) B225(BATHTUB)
  B230(SPEAR) B231(ARROW) B232 B233(SWORD) B234 B236 B240(WHEELED(CHARIOT)) B241(CHARIOT)
  B242(CHARIOT(FRAME)) B243(WHEEL) B245 B246 B248 B249 B251 B252 B253 B254(DART) B255 B256 B257
  B258 B259 VESSEL(B155 B200 B201 B202 B203 B204 B205 B206 B207 B208 B209 B210 B211 B212 B213
  B214 B215 B216 B217 B218 B219 B221 B222 B226 B227 B228 B229 B250 B305)) MONOGRAM(B127(KAPO)
  B128(KANAKO) B133(AREPA) B135(MERI) B156(TURO2) B247(DIPTE)) SYLLABLE(B001(DA) B002(RO)
  B003(PA) B004(TE) B005(TO) B006(NA) B007(DI) B008(A) B009(SE) B010(U) B011(PO) B012(SO)
  B013(ME) B014(DO) B015(MO) B016(QA) B017(ZA) B020(ZO) B021(QI) B023(MU) B024(NE) B025(A2)
  B026(RU) B027(RE) B028(I) B029(PU2) B030(NI) B031(SA) B032(QO) B033(RA3) B036(JO) B037(TI)
  B038(E) B039(PI) B040(WI) B041(SI) B042(WO) B043(A3) B044(KE) B045(DE) B046(JE) B048(NWA)
  B050(PU) B051(DU) B052(NO) B053(RI) B054(WA) B055(NU) B057(JA) B058(SU) B059(TA) B060(RA)
  B061(O) B062(PTE) B065(JU) B066(TA2) B067(KI) B068(RO2) B069(TU) B070(KO) B071(DWE) B072(PE)
  B073(MI) B074(ZE) B075(WE) B076(RA2) B077(KA) B078(QE) B080(MA) B081(KU) B085(AU) B087(TWE)
  B090(DWO) B091(TWO)) SYMBOL(B018 B019 B022 B034 B047 B049 B056 B063 B064 B079 B082 B083 B086
  B089))) LINK(SYMBOL) LINKED(PAPERCLIPS) LION(FACE) LIPS LIPSTICK LIRA(SIGN) LISU(LETTER(A AE
  BA CA CHA DA DZA E EU FA GA GHA HA HHA I JA KA KHA LA MA NA NGA O OE PA PHA SA SHA TA THA
  TONE(MYA(BO CYA JEU NA TI) NA(PO)) TSA TSHA U UE UH WA XA YA YHA ZA ZHA) PUNCTUATION(COMMA
  FULL(STOP))) LIVRE(TOURNOIS(SIGN)) LIZARD LLAMA LOBSTER LOCK(. WITH(INK(PEN)))
  LOCKING-SHIFT(ONE ZERO) LOGICAL(AND(. WITH(DOT(ABOVE) DOUBLE(OVERBAR UNDERBAR)
  HORIZONTAL(DASH) MIDDLE(STEM) UNDERBAR)) OR(. OVERLAPPING(LOGICAL(AND)) WITH(DOT(ABOVE)
  DOUBLE(OVERBAR UNDERBAR) HORIZONTAL(DASH) MIDDLE(STEM)))) LOLLIPOP
  LONG(DASH(FROM(LEFT(MEMBER(OF(DOUBLE(VERTICAL)))))) DIVISION DRUM LEFT(RIGHT(ARROW
  DOUBLE(ARROW)) TACK) LEFTWARDS(ARROW(. FROM(BAR)) DOUBLE(ARROW(. FROM(BAR))) SQUIGGLE(ARROW))
  RIGHT(TACK) RIGHTWARDS(ARROW(. FROM(BAR)) DOUBLE(ARROW(. FROM(BAR))) SQUIGGLE(ARROW)))
  LOTION(BOTTLE) LOTUS LOUDLY(CRYING(FACE)) LOVE(HOTEL LETTER) LOW(ASTERISK BATTERY
  BRIGHTNESS(SYMBOL) DOUBLE(PRIME(QUOTATION(MARK))) KAVYKA(. WITH(DOT)) LINE)
  LOWER(BLADE(SCISSORS) FIVE(EIGHTHS(BLOCK)) HALF(BLOCK CIRCLE INVERSE(WHITE(CIRCLE))
  MEDIUM(SHADE)) LEFT(BALLPOINT(PEN) BLOCK(DIAGONAL(LOWER(MIDDLE(LEFT(TO(LOWER(CENTRE
  RIGHT))))) UPPER(CENTRE(TO(LOWER(MIDDLE(RIGHT) RIGHT) UPPER(MIDDLE(RIGHT))))
  LEFT(TO(LOWER(CENTRE MIDDLE(RIGHT)) UPPER(MIDDLE(RIGHT)))) MIDDLE(LEFT(TO(LOWER(CENTRE
  MIDDLE(RIGHT) RIGHT))))))) CRAYON FOUNTAIN(PEN) PAINTBRUSH PENCIL QUADRANT(CIRCULAR(ARC))
  SEMICIRCULAR(ANTICLOCKWISE(ARROW)) TRIANGLE TRIANGULAR(MEDIUM(SHADE))) ONE(EIGHTH(BLOCK)
  QUARTER(BLOCK)) RIGHT(BLOCK(DIAGONAL(LOWER(CENTRE(TO(LOWER(MIDDLE(RIGHT)) UPPER(MIDDLE(RIGHT)
  RIGHT))) LEFT(TO(LOWER(MIDDLE(RIGHT)) UPPER(CENTRE MIDDLE(RIGHT))))
  MIDDLE(LEFT(TO(UPPER(CENTRE MIDDLE(RIGHT) RIGHT))))) UPPER(MIDDLE(LEFT(TO(UPPER(CENTRE
  RIGHT))))))) CORNER(WITH(DOT)) DROP-SHADOWED(WHITE(SQUARE)) PENCIL QUADRANT(CIRCULAR(ARC))
  SEMICIRCULAR(CLOCKWISE(ARROW)) SHADOWED(WHITE(CIRCLE SQUARE)) TRIANGLE
  TRIANGULAR(MEDIUM(SHADE))) SEVEN(EIGHTHS(BLOCK)) THREE(EIGHTHS(BLOCK) QUARTERS(BLOCK))
  TRIANGULAR(ONE(QUARTER(BLOCK)))) LOZENGE(. DIVIDED(BY(HORIZONTAL(RULE)))) LRE LRI LRM LRO
  LUGGAGE LUNGS LYCIAN(LETTER(A AN B BH D E EN G H I J K KK L M MM N NN P Q R S T TH TT U W X
  Z)) LYDIAN(LETTER(A AN B C D E EN F G I K L LY M N NN O Q R S SS T TT U V Y)
  TRIANGULAR(MARK)) LYING(FACE)"

end FactIntake.Text.CharacterNames
