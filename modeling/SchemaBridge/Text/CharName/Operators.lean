import SchemaBridge.Text.CharName.Row

/-!
# Names: Braille, arrows and operators

The names of the characters from U+2800 to U+2BFF: Braille patterns, and more arrows, operators and
shapes.
-/

namespace SchemaBridge.Text.CharName

/-- The rows of names, each with the code of its first character. -/
def operators : List Row :=
  [(0x2800,
    ["BRAILLE PATTERN BLANK/2DOTS-1/2DOTS-2/2DOTS-12/2DOTS-3/2DOTS-13/2DOTS-23/2DOTS-123/2DOTS-4",
     "2DOTS-14/2DOTS-24/2DOTS-124/2DOTS-34/2DOTS-134/2DOTS-234/2DOTS-1234/2DOTS-5/2DOTS-15",
     "2DOTS-25/2DOTS-125/2DOTS-35/2DOTS-135/2DOTS-235/2DOTS-1235/2DOTS-45/2DOTS-145/2DOTS-245",
     "2DOTS-1245/2DOTS-345/2DOTS-1345/2DOTS-2345/2DOTS-12345/2DOTS-6/2DOTS-16/2DOTS-26/2DOTS-126",
     "2DOTS-36/2DOTS-136/2DOTS-236/2DOTS-1236/2DOTS-46/2DOTS-146/2DOTS-246/2DOTS-1246/2DOTS-346",
     "2DOTS-1346/2DOTS-2346/2DOTS-12346/2DOTS-56/2DOTS-156/2DOTS-256/2DOTS-1256/2DOTS-356",
     "2DOTS-1356/2DOTS-2356/2DOTS-12356/2DOTS-456/2DOTS-1456/2DOTS-2456/2DOTS-12456/2DOTS-3456",
     "2DOTS-13456/2DOTS-23456/2DOTS-123456/2DOTS-7/2DOTS-17/2DOTS-27/2DOTS-127/2DOTS-37",
     "2DOTS-137/2DOTS-237/2DOTS-1237/2DOTS-47/2DOTS-147/2DOTS-247/2DOTS-1247/2DOTS-347",
     "2DOTS-1347/2DOTS-2347/2DOTS-12347/2DOTS-57/2DOTS-157/2DOTS-257/2DOTS-1257/2DOTS-357",
     "2DOTS-1357/2DOTS-2357/2DOTS-12357/2DOTS-457/2DOTS-1457/2DOTS-2457/2DOTS-12457/2DOTS-3457",
     "2DOTS-13457/2DOTS-23457/2DOTS-123457/2DOTS-67/2DOTS-167/2DOTS-267/2DOTS-1267/2DOTS-367",
     "2DOTS-1367/2DOTS-2367/2DOTS-12367/2DOTS-467/2DOTS-1467/2DOTS-2467/2DOTS-12467/2DOTS-3467",
     "2DOTS-13467/2DOTS-23467/2DOTS-123467/2DOTS-567/2DOTS-1567/2DOTS-2567/2DOTS-12567",
     "2DOTS-3567/2DOTS-13567/2DOTS-23567/2DOTS-123567/2DOTS-4567/2DOTS-14567/2DOTS-24567",
     "2DOTS-124567/2DOTS-34567/2DOTS-134567/2DOTS-234567/2DOTS-1234567/2DOTS-8/2DOTS-18/2DOTS-28",
     "2DOTS-128/2DOTS-38/2DOTS-138/2DOTS-238/2DOTS-1238/2DOTS-48/2DOTS-148/2DOTS-248/2DOTS-1248",
     "2DOTS-348/2DOTS-1348/2DOTS-2348/2DOTS-12348/2DOTS-58/2DOTS-158/2DOTS-258/2DOTS-1258",
     "2DOTS-358/2DOTS-1358/2DOTS-2358/2DOTS-12358/2DOTS-458/2DOTS-1458/2DOTS-2458/2DOTS-12458",
     "2DOTS-3458/2DOTS-13458/2DOTS-23458/2DOTS-123458/2DOTS-68/2DOTS-168/2DOTS-268/2DOTS-1268",
     "2DOTS-368/2DOTS-1368/2DOTS-2368/2DOTS-12368/2DOTS-468/2DOTS-1468/2DOTS-2468/2DOTS-12468",
     "2DOTS-3468/2DOTS-13468/2DOTS-23468/2DOTS-123468/2DOTS-568/2DOTS-1568/2DOTS-2568",
     "2DOTS-12568/2DOTS-3568/2DOTS-13568/2DOTS-23568/2DOTS-123568/2DOTS-4568/2DOTS-14568",
     "2DOTS-24568/2DOTS-124568/2DOTS-34568/2DOTS-134568/2DOTS-234568/2DOTS-1234568/2DOTS-78",
     "2DOTS-178/2DOTS-278/2DOTS-1278/2DOTS-378/2DOTS-1378/2DOTS-2378/2DOTS-12378/2DOTS-478",
     "2DOTS-1478/2DOTS-2478/2DOTS-12478/2DOTS-3478/2DOTS-13478/2DOTS-23478/2DOTS-123478",
     "2DOTS-578/2DOTS-1578/2DOTS-2578/2DOTS-12578/2DOTS-3578/2DOTS-13578/2DOTS-23578",
     "2DOTS-123578/2DOTS-4578/2DOTS-14578/2DOTS-24578/2DOTS-124578/2DOTS-34578/2DOTS-134578",
     "2DOTS-234578/2DOTS-1234578/2DOTS-678/2DOTS-1678/2DOTS-2678/2DOTS-12678/2DOTS-3678",
     "2DOTS-13678/2DOTS-23678/2DOTS-123678/2DOTS-4678/2DOTS-14678/2DOTS-24678/2DOTS-124678",
     "2DOTS-34678/2DOTS-134678/2DOTS-234678/2DOTS-1234678/2DOTS-5678/2DOTS-15678/2DOTS-25678",
     "2DOTS-125678/2DOTS-35678/2DOTS-135678/2DOTS-235678/2DOTS-1235678/2DOTS-45678/2DOTS-145678",
     "2DOTS-245678/2DOTS-1245678/2DOTS-345678/2DOTS-1345678/2DOTS-2345678/2DOTS-12345678",
     "RIGHTWARDS TWO-HEADED ARROW WITH VERTICAL STROKE/4DOUBLE VERTICAL STROKE",
     "LEFTWARDS DOUBLE ARROW WITH VERTICAL STROKE/RIGHTWARDS DOUBLE ARROW WITH VERTICAL STROKE",
     "LEFT RIGHT DOUBLE ARROW WITH VERTICAL STROKE/RIGHTWARDS TWO-HEADED ARROW FROM BAR",
     "LEFTWARDS DOUBLE ARROW FROM BAR/RIGHTWARDS DOUBLE ARROW FROM BAR",
     "DOWNWARDS ARROW WITH HORIZONTAL STROKE/UPWARDS ARROW WITH HORIZONTAL STROKE/1TRIPLE ARROW",
     "DOWNWARDS TRIPLE ARROW/LEFTWARDS DOUBLE DASH ARROW/RIGHTWARDS DOUBLE DASH ARROW",
     "LEFTWARDS TRIPLE DASH ARROW/RIGHTWARDS TRIPLE DASH ARROW/1TWO-HEADED TRIPLE DASH ARROW",
     "1ARROW WITH DOTTED STEM/UPWARDS ARROW TO BAR/DOWNWARDS ARROW TO BAR",
     "RIGHTWARDS ARROW WITH TAIL WITH VERTICAL STROKE/5DOUBLE VERTICAL STROKE",
     "1TWO-HEADED ARROW WITH TAIL/5WITH VERTICAL STROKE/6DOUBLE VERTICAL STROKE",
     "LEFTWARDS ARROW-TAIL/RIGHTWARDS ARROW-TAIL/LEFTWARDS DOUBLE ARROW-TAIL",
     "RIGHTWARDS DOUBLE ARROW-TAIL/LEFTWARDS ARROW TO BLACK DIAMOND",
     "RIGHTWARDS ARROW TO BLACK DIAMOND/LEFTWARDS ARROW FROM BAR TO BLACK DIAMOND",
     "RIGHTWARDS ARROW FROM BAR TO BLACK DIAMOND/NORTH WEST AND SOUTH EAST ARROW",
     "1EAST AND SOUTH WEST ARROW/1WEST ARROW WITH HOOK/1EAST ARROW WITH HOOK",
     "SOUTH EAST ARROW WITH HOOK/1WEST ARROW WITH HOOK/NORTH WEST ARROW AND NORTH EAST ARROW",
     "1EAST ARROW AND SOUTH EAST ARROW/SOUTH EAST ARROW AND SOUTH WEST ARROW",
     "1WEST ARROW AND NORTH WEST ARROW/RISING DIAGONAL CROSSING FALLING DIAGONAL",
     "FALLING DIAGONAL CROSSING RISING DIAGONAL/SOUTH EAST ARROW CROSSING NORTH EAST ARROW",
     "NORTH EAST ARROW CROSSING SOUTH EAST ARROW/FALLING DIAGONAL CROSSING NORTH EAST ARROW",
     "RISING DIAGONAL CROSSING SOUTH EAST ARROW/NORTH EAST ARROW CROSSING NORTH WEST ARROW",
     "1WEST ARROW CROSSING NORTH EAST ARROW/WAVE ARROW POINTING DIRECTLY RIGHT",
     "ARROW POINTING RIGHTWARDS THEN CURVING UPWARDS/5DOWNWARDS",
     "2DOWNWARDS THEN CURVING LEFTWARDS/5RIGHTWARDS/RIGHT-SIDE ARC CLOCKWISE ARROW",
     "LEFT-SIDE ARC ANTICLOCKWISE ARROW/TOP ARC ANTICLOCKWISE ARROW",
     "BOTTOM ARC ANTICLOCKWISE ARROW/TOP ARC CLOCKWISE ARROW WITH MINUS",
     "2ANTICLOCKWISE ARROW WITH PLUS/LOWER RIGHT SEMICIRCULAR CLOCKWISE ARROW",
     "1LEFT SEMICIRCULAR ANTICLOCKWISE ARROW/ANTICLOCKWISE CLOSED CIRCLE ARROW",
     "CLOCKWISE CLOSED CIRCLE ARROW/RIGHTWARDS ARROW ABOVE SHORT LEFTWARDS ARROW",
     "LEFTWARDS ARROW ABOVE SHORT RIGHTWARDS ARROW/SHORT RIGHTWARDS ARROW ABOVE LEFTWARDS ARROW",
     "RIGHTWARDS ARROW WITH PLUS BELOW/LEFTWARDS ARROW WITH PLUS BELOW",
     "RIGHTWARDS ARROW THROUGH X/LEFT RIGHT ARROW THROUGH SMALL CIRCLE",
     "UPWARDS TWO-HEADED ARROW FROM SMALL CIRCLE/LEFT BARB UP RIGHT BARB DOWN HARPOON",
     "2DOWN RIGHT BARB UP HARPOON/UP BARB RIGHT DOWN BARB LEFT HARPOON",
     "2LEFT DOWN BARB RIGHT HARPOON/LEFT BARB UP RIGHT BARB UP HARPOON",
     "UP BARB RIGHT DOWN BARB RIGHT HARPOON/LEFT BARB DOWN RIGHT BARB DOWN HARPOON",
     "UP BARB LEFT DOWN BARB LEFT HARPOON/LEFTWARDS HARPOON WITH BARB UP TO BAR",
     "RIGHTWARDS HARPOON WITH BARB UP TO BAR/UPWARDS HARPOON WITH BARB RIGHT TO BAR",
     "DOWNWARDS HARPOON WITH BARB RIGHT TO BAR/LEFTWARDS HARPOON WITH BARB DOWN TO BAR",
     "RIGHTWARDS HARPOON WITH BARB DOWN TO BAR/UPWARDS HARPOON WITH BARB LEFT TO BAR",
     "DOWNWARDS HARPOON WITH BARB LEFT TO BAR/LEFTWARDS HARPOON WITH BARB UP FROM BAR",
     "RIGHTWARDS HARPOON WITH BARB UP FROM BAR/UPWARDS HARPOON WITH BARB RIGHT FROM BAR",
     "DOWNWARDS HARPOON WITH BARB RIGHT FROM BAR/LEFTWARDS HARPOON WITH BARB DOWN FROM BAR",
     "RIGHTWARDS HARPOON WITH BARB DOWN FROM BAR/UPWARDS HARPOON WITH BARB LEFT FROM BAR",
     "DOWNWARDS HARPOON WITH BARB LEFT FROM BAR",
     "LEFTWARDS HARPOON WITH BARB UP ABOVE LEFTWARDS HARPOON WITH BARB DOWN",
     "UPWARDS HARPOON WITH BARB LEFT BESIDE UPWARDS HARPOON WITH BARB RIGHT",
     "RIGHTWARDS HARPOON WITH BARB UP ABOVE RIGHTWARDS HARPOON WITH BARB DOWN",
     "DOWNWARDS HARPOON WITH BARB LEFT BESIDE DOWNWARDS HARPOON WITH BARB RIGHT",
     "LEFTWARDS HARPOON WITH BARB UP ABOVE RIGHTWARDS HARPOON WITH BARB UP",
     "4DOWN ABOVE RIGHTWARDS HARPOON WITH BARB DOWN",
     "RIGHTWARDS HARPOON WITH BARB UP ABOVE LEFTWARDS HARPOON WITH BARB UP",
     "4DOWN ABOVE LEFTWARDS HARPOON WITH BARB DOWN",
     "LEFTWARDS HARPOON WITH BARB UP ABOVE LONG DASH/4DOWN BELOW LONG DASH",
     "RIGHTWARDS HARPOON WITH BARB UP ABOVE LONG DASH/4DOWN BELOW LONG DASH",
     "UPWARDS HARPOON WITH BARB LEFT BESIDE DOWNWARDS HARPOON WITH BARB RIGHT",
     "DOWNWARDS HARPOON WITH BARB LEFT BESIDE UPWARDS HARPOON WITH BARB RIGHT",
     "RIGHT DOUBLE ARROW WITH ROUNDED HEAD/EQUALS SIGN ABOVE RIGHTWARDS ARROW",
     "TILDE OPERATOR ABOVE RIGHTWARDS ARROW/LEFTWARDS ARROW ABOVE TILDE OPERATOR",
     "RIGHTWARDS ARROW ABOVE TILDE OPERATOR/3ALMOST EQUAL TO/LESS-THAN ABOVE LEFTWARDS ARROW",
     "LEFTWARDS ARROW THROUGH LESS-THAN/GREATER-THAN ABOVE RIGHTWARDS ARROW",
     "SUBSET ABOVE RIGHTWARDS ARROW/LEFTWARDS ARROW THROUGH SUBSET",
     "SUPERSET ABOVE LEFTWARDS ARROW/LEFT FISH TAIL/RIGHT FISH TAIL/UP FISH TAIL/DOWN FISH TAIL",
     "TRIPLE VERTICAL BAR DELIMITER/Z NOTATION SPOT/2TYPE COLON/LEFT WHITE CURLY BRACKET",
     "RIGHT WHITE CURLY BRACKET/LEFT WHITE PARENTHESIS/RIGHT WHITE PARENTHESIS",
     "Z NOTATION LEFT IMAGE BRACKET/2RIGHT IMAGE BRACKET/2LEFT BINDING BRACKET",
     "2RIGHT BINDING BRACKET/LEFT SQUARE BRACKET WITH UNDERBAR",
     "RIGHT SQUARE BRACKET WITH UNDERBAR/LEFT SQUARE BRACKET WITH TICK IN TOP CORNER",
     "RIGHT SQUARE BRACKET WITH TICK IN BOTTOM CORNER",
     "LEFT SQUARE BRACKET WITH TICK IN BOTTOM CORNER",
     "RIGHT SQUARE BRACKET WITH TICK IN TOP CORNER/LEFT ANGLE BRACKET WITH DOT",
     "RIGHT ANGLE BRACKET WITH DOT/LEFT ARC LESS-THAN BRACKET/RIGHT ARC GREATER-THAN BRACKET",
     "DOUBLE LEFT ARC GREATER-THAN BRACKET/1RIGHT ARC LESS-THAN BRACKET",
     "LEFT BLACK TORTOISE SHELL BRACKET/RIGHT BLACK TORTOISE SHELL BRACKET/DOTTED FENCE",
     "VERTICAL ZIGZAG LINE/MEASURED ANGLE OPENING LEFT/RIGHT ANGLE VARIANT WITH SQUARE",
     "MEASURED RIGHT ANGLE WITH DOT/ANGLE WITH S INSIDE/ACUTE ANGLE/SPHERICAL ANGLE OPENING LEFT",
     "3UP/TURNED ANGLE/REVERSED ANGLE/ANGLE WITH UNDERBAR/REVERSED ANGLE WITH UNDERBAR",
     "OBLIQUE ANGLE OPENING UP/3DOWN",
     "MEASURED ANGLE WITH OPEN ARM ENDING IN ARROW POINTING UP AND RIGHT/9UP AND LEFT",
     "9DOWN AND RIGHT/9DOWN AND LEFT/9RIGHT AND UP/9LEFT AND UP/9RIGHT AND DOWN/9LEFT AND DOWN",
     "REVERSED EMPTY SET/EMPTY SET WITH OVERBAR/3SMALL CIRCLE ABOVE/3RIGHT ARROW ABOVE",
     "3LEFT ARROW ABOVE/CIRCLE WITH HORIZONTAL BAR/CIRCLED VERTICAL BAR/1PARALLEL",
     "1REVERSE SOLIDUS/1PERPENDICULAR",
     "CIRCLE DIVIDED BY HORIZONTAL BAR AND TOP HALF DIVIDED BY VERTICAL BAR/1WITH SUPERIMPOSED X",
     "CIRCLED ANTICLOCKWISE-ROTATED DIVISION SIGN/UP ARROW THROUGH CIRCLE/CIRCLED WHITE BULLET",
     "1BULLET/1LESS-THAN/1GREATER-THAN/CIRCLE WITH SMALL CIRCLE TO THE RIGHT",
     "2TWO HORIZONTAL STROKES TO THE RIGHT/SQUARED RISING DIAGONAL SLASH/1FALLING DIAGONAL SLASH",
     "1ASTERISK/1SMALL CIRCLE/1SQUARE/TWO JOINED SQUARES/TRIANGLE WITH DOT ABOVE/2UNDERBAR",
     "S IN TRIANGLE/TRIANGLE WITH SERIFS AT BOTTOM/RIGHT TRIANGLE ABOVE LEFT TRIANGLE",
     "LEFT TRIANGLE BESIDE VERTICAL BAR/VERTICAL BAR BESIDE RIGHT TRIANGLE",
     "BOWTIE WITH LEFT HALF BLACK/2RIGHT HALF BLACK/BLACK BOWTIE/TIMES WITH LEFT HALF BLACK",
     "2RIGHT HALF BLACK/WHITE HOURGLASS/BLACK HOURGLASS/LEFT WIGGLY FENCE/RIGHT WIGGLY FENCE",
     "LEFT DOUBLE WIGGLY FENCE/RIGHT DOUBLE WIGGLY FENCE/INCOMPLETE INFINITY/TIE OVER INFINITY",
     "INFINITY NEGATED WITH VERTICAL BAR/DOUBLE-ENDED MULTIMAP/SQUARE WITH CONTOURED OUTLINE",
     "INCREASES AS/SHUFFLE PRODUCT/EQUALS SIGN AND SLANTED PARALLEL/5WITH TILDE ABOVE",
     "IDENTICAL TO AND SLANTED PARALLEL/GLEICH STARK/THERMODYNAMIC",
     "DOWN-POINTING TRIANGLE WITH LEFT HALF BLACK/3RIGHT HALF BLACK",
     "BLACK DIAMOND WITH DOWN ARROW/1LOZENGE/WHITE CIRCLE WITH DOWN ARROW",
     "BLACK CIRCLE WITH DOWN ARROW/ERROR-BARRED WHITE SQUARE/1BLACK SQUARE/1WHITE DIAMOND",
     "1BLACK DIAMOND/1WHITE CIRCLE/1BLACK CIRCLE/RULE-DELAYED/REVERSE SOLIDUS OPERATOR",
     "SOLIDUS WITH OVERBAR/REVERSE SOLIDUS WITH HORIZONTAL STROKE/BIG SOLIDUS/1REVERSE SOLIDUS",
     "DOUBLE PLUS/TRIPLE PLUS/LEFT-POINTING CURVED ANGLE BRACKET",
     "RIGHT-POINTING CURVED ANGLE BRACKET/TINY/MINY/N-ARY CIRCLED DOT OPERATOR/2PLUS OPERATOR",
     "2TIMES OPERATOR/1UNION OPERATOR WITH DOT/4PLUS/1SQUARE INTERSECTION OPERATOR",
     "2UNION OPERATOR/TWO LOGICAL AND OPERATOR/2OR OPERATOR/N-ARY TIMES OPERATOR/MODULO TWO SUM",
     "SUMMATION WITH INTEGRAL/QUADRUPLE INTEGRAL OPERATOR/FINITE PART INTEGRAL",
     "INTEGRAL WITH DOUBLE STROKE/1AVERAGE WITH SLASH/CIRCULATION FUNCTION",
     "ANTICLOCKWISE INTEGRATION/LINE INTEGRATION WITH RECTANGULAR PATH AROUND POLE",
     "3SEMICIRCULAR PATH AROUND POLE/2NOT INCLUDING THE POLE/INTEGRAL AROUND A POINT OPERATOR",
     "QUATERNION INTEGRAL OPERATOR/INTEGRAL WITH LEFTWARDS ARROW WITH HOOK/2TIMES SIGN",
     "2INTERSECTION/2UNION/2OVERBAR/2UNDERBAR/JOIN/LARGE LEFT TRIANGLE OPERATOR",
     "Z NOTATION SCHEMA COMPOSITION/3PIPING/3PROJECTION/PLUS SIGN WITH SMALL CIRCLE ABOVE",
     "3CIRCUMFLEX ACCENT ABOVE/3TILDE ABOVE/3DOT BELOW/3TILDE BELOW/3SUBSCRIPT TWO",
     "3BLACK TRIANGLE/MINUS SIGN WITH COMMA ABOVE/3DOT BELOW/3FALLING DOTS/3RISING DOTS",
     "PLUS SIGN IN LEFT HALF CIRCLE/3RIGHT HALF CIRCLE/VECTOR OR CROSS PRODUCT",
     "MULTIPLICATION SIGN WITH DOT ABOVE/3UNDERBAR/SEMIDIRECT PRODUCT WITH BOTTOM CLOSED",
     "SMASH PRODUCT/MULTIPLICATION SIGN IN LEFT HALF CIRCLE/3RIGHT HALF CIRCLE",
     "CIRCLED MULTIPLICATION SIGN WITH CIRCUMFLEX ACCENT/MULTIPLICATION SIGN IN DOUBLE CIRCLE",
     "CIRCLED DIVISION SIGN/PLUS SIGN IN TRIANGLE/MINUS SIGN IN TRIANGLE",
     "MULTIPLICATION SIGN IN TRIANGLE/INTERIOR PRODUCT/RIGHTHAND INTERIOR PRODUCT",
     "Z NOTATION RELATIONAL COMPOSITION/AMALGAMATION OR COPRODUCT/INTERSECTION WITH DOT",
     "UNION WITH MINUS SIGN/2OVERBAR/INTERSECTION WITH OVERBAR/2LOGICAL AND",
     "UNION WITH LOGICAL OR/1ABOVE INTERSECTION/INTERSECTION ABOVE UNION",
     "UNION ABOVE BAR ABOVE INTERSECTION/INTERSECTION ABOVE BAR ABOVE UNION",
     "UNION BESIDE AND JOINED WITH UNION/INTERSECTION BESIDE AND JOINED WITH INTERSECTION",
     "CLOSED UNION WITH SERIFS/1INTERSECTION WITH SERIFS/DOUBLE SQUARE INTERSECTION/2UNION",
     "CLOSED UNION WITH SERIFS AND SMASH PRODUCT/LOGICAL AND WITH DOT ABOVE/1OR WITH DOT ABOVE",
     "DOUBLE LOGICAL AND/2OR/TWO INTERSECTING LOGICAL AND/3OR/SLOPING LARGE OR/2AND",
     "LOGICAL OR OVERLAPPING LOGICAL AND/1AND WITH MIDDLE STEM/1OR WITH MIDDLE STEM",
     "1AND WITH HORIZONTAL DASH/1OR WITH HORIZONTAL DASH/1AND WITH DOUBLE OVERBAR/3UNDERBAR",
     "3DOUBLE UNDERBAR/SMALL VEE WITH UNDERBAR/LOGICAL OR WITH DOUBLE OVERBAR/4UNDERBAR",
     "Z NOTATION DOMAIN ANTIRESTRICTION/2RANGE ANTIRESTRICTION/EQUALS SIGN WITH DOT BELOW",
     "IDENTICAL WITH DOT ABOVE/TRIPLE HORIZONTAL BAR WITH DOUBLE VERTICAL STROKE",
     "4TRIPLE VERTICAL STROKE/TILDE OPERATOR WITH DOT ABOVE/3RISING DOTS/SIMILAR MINUS SIMILAR",
     "CONGRUENT WITH DOT ABOVE/EQUALS WITH ASTERISK/ALMOST EQUAL TO WITH CIRCUMFLEX ACCENT",
     "APPROXIMATELY EQUAL OR EQUAL TO/EQUALS SIGN ABOVE PLUS SIGN/PLUS SIGN ABOVE EQUALS SIGN",
     "EQUALS SIGN ABOVE TILDE OPERATOR/DOUBLE COLON EQUAL/TWO CONSECUTIVE EQUALS SIGNS",
     "THREE CONSECUTIVE EQUALS SIGNS/EQUALS SIGN WITH TWO DOTS ABOVE AND TWO DOTS BELOW",
     "EQUIVALENT WITH FOUR DOTS ABOVE/LESS-THAN WITH CIRCLE INSIDE",
     "GREATER-THAN WITH CIRCLE INSIDE/LESS-THAN WITH QUESTION MARK ABOVE",
     "GREATER-THAN WITH QUESTION MARK ABOVE/LESS-THAN OR SLANTED EQUAL TO",
     "GREATER-THAN OR SLANTED EQUAL TO/LESS-THAN OR SLANTED EQUAL TO WITH DOT INSIDE",
     "GREATER-THAN OR SLANTED EQUAL TO WITH DOT INSIDE",
     "LESS-THAN OR SLANTED EQUAL TO WITH DOT ABOVE",
     "GREATER-THAN OR SLANTED EQUAL TO WITH DOT ABOVE",
     "LESS-THAN OR SLANTED EQUAL TO WITH DOT ABOVE RIGHT",
     "GREATER-THAN OR SLANTED EQUAL TO WITH DOT ABOVE LEFT/LESS-THAN OR APPROXIMATE",
     "GREATER-THAN OR APPROXIMATE/LESS-THAN AND SINGLE-LINE NOT EQUAL TO",
     "GREATER-THAN AND SINGLE-LINE NOT EQUAL TO/LESS-THAN AND NOT APPROXIMATE",
     "GREATER-THAN AND NOT APPROXIMATE/LESS-THAN ABOVE DOUBLE-LINE EQUAL ABOVE GREATER-THAN",
     "GREATER-THAN ABOVE DOUBLE-LINE EQUAL ABOVE LESS-THAN/LESS-THAN ABOVE SIMILAR OR EQUAL",
     "GREATER-THAN ABOVE SIMILAR OR EQUAL/LESS-THAN ABOVE SIMILAR ABOVE GREATER-THAN",
     "GREATER-THAN ABOVE SIMILAR ABOVE LESS-THAN",
     "LESS-THAN ABOVE GREATER-THAN ABOVE DOUBLE-LINE EQUAL",
     "GREATER-THAN ABOVE LESS-THAN ABOVE DOUBLE-LINE EQUAL",
     "LESS-THAN ABOVE SLANTED EQUAL ABOVE GREATER-THAN ABOVE SLANTED EQUAL",
     "GREATER-THAN ABOVE SLANTED EQUAL ABOVE LESS-THAN ABOVE SLANTED EQUAL",
     "SLANTED EQUAL TO OR LESS-THAN/4GREATER-THAN/4LESS-THAN WITH DOT INSIDE",
     "4GREATER-THAN WITH DOT INSIDE/DOUBLE-LINE EQUAL TO OR LESS-THAN/4GREATER-THAN",
     "1SLANTED EQUAL TO OR LESS-THAN/5GREATER-THAN/SIMILAR OR LESS-THAN/2GREATER-THAN",
     "1ABOVE LESS-THAN ABOVE EQUALS SIGN/2GREATER-THAN ABOVE EQUALS SIGN/DOUBLE NESTED LESS-THAN",
     "2GREATER-THAN/2LESS-THAN WITH UNDERBAR/GREATER-THAN OVERLAPPING LESS-THAN",
     "1BESIDE LESS-THAN/LESS-THAN CLOSED BY CURVE/GREATER-THAN CLOSED BY CURVE",
     "LESS-THAN CLOSED BY CURVE ABOVE SLANTED EQUAL",
     "GREATER-THAN CLOSED BY CURVE ABOVE SLANTED EQUAL/SMALLER THAN/LARGER THAN",
     "SMALLER THAN OR EQUAL TO/LARGER THAN OR EQUAL TO/EQUALS SIGN WITH BUMPY ABOVE",
     "PRECEDES ABOVE SINGLE-LINE EQUALS SIGN/SUCCEEDS ABOVE SINGLE-LINE EQUALS SIGN",
     "PRECEDES ABOVE SINGLE-LINE NOT EQUAL TO/SUCCEEDS ABOVE SINGLE-LINE NOT EQUAL TO",
     "PRECEDES ABOVE EQUALS SIGN/SUCCEEDS ABOVE EQUALS SIGN/PRECEDES ABOVE NOT EQUAL TO",
     "SUCCEEDS ABOVE NOT EQUAL TO/PRECEDES ABOVE ALMOST EQUAL TO/SUCCEEDS ABOVE ALMOST EQUAL TO",
     "PRECEDES ABOVE NOT ALMOST EQUAL TO/SUCCEEDS ABOVE NOT ALMOST EQUAL TO/DOUBLE PRECEDES",
     "1SUCCEEDS/SUBSET WITH DOT/SUPERSET WITH DOT/SUBSET WITH PLUS SIGN BELOW",
     "SUPERSET WITH PLUS SIGN BELOW/SUBSET WITH MULTIPLICATION SIGN BELOW",
     "SUPERSET WITH MULTIPLICATION SIGN BELOW/SUBSET OF OR EQUAL TO WITH DOT ABOVE",
     "SUPERSET OF OR EQUAL TO WITH DOT ABOVE/SUBSET OF ABOVE EQUALS SIGN",
     "SUPERSET OF ABOVE EQUALS SIGN/SUBSET OF ABOVE TILDE OPERATOR",
     "SUPERSET OF ABOVE TILDE OPERATOR/SUBSET OF ABOVE ALMOST EQUAL TO",
     "SUPERSET OF ABOVE ALMOST EQUAL TO/SUBSET OF ABOVE NOT EQUAL TO",
     "SUPERSET OF ABOVE NOT EQUAL TO/SQUARE LEFT OPEN BOX OPERATOR/1RIGHT OPEN BOX OPERATOR",
     "CLOSED SUBSET/1SUPERSET/1SUBSET OR EQUAL TO/1SUPERSET OR EQUAL TO/SUBSET ABOVE SUPERSET",
     "SUPERSET ABOVE SUBSET/SUBSET ABOVE SUBSET/SUPERSET ABOVE SUPERSET/1BESIDE SUBSET",
     "2AND JOINED BY DASH WITH SUBSET/ELEMENT OF OPENING DOWNWARDS/PITCHFORK WITH TEE TOP",
     "TRANSVERSAL INTERSECTION/FORKING/NONFORKING/SHORT LEFT TACK/1DOWN TACK/1UP TACK",
     "PERPENDICULAR WITH S/VERTICAL BAR TRIPLE RIGHT TURNSTILE",
     "DOUBLE VERTICAL BAR LEFT TURNSTILE/VERTICAL BAR DOUBLE LEFT TURNSTILE",
     "DOUBLE VERTICAL BAR DOUBLE LEFT TURNSTILE/LONG DASH FROM LEFT MEMBER OF DOUBLE VERTICAL",
     "SHORT DOWN TACK WITH OVERBAR/1UP TACK WITH UNDERBAR/3ABOVE SHORT DOWN TACK",
     "DOUBLE DOWN TACK/1UP TACK/1STROKE NOT SIGN/REVERSED DOUBLE STROKE NOT SIGN",
     "DOES NOT DIVIDE WITH REVERSED NEGATION SLASH/VERTICAL LINE WITH CIRCLE ABOVE/4BELOW",
     "DOWN TACK WITH CIRCLE BELOW/PARALLEL WITH HORIZONTAL STROKE/2TILDE OPERATOR",
     "TRIPLE VERTICAL BAR BINARY RELATION/3WITH HORIZONTAL STROKE/1COLON OPERATOR",
     "1NESTED LESS-THAN/2GREATER-THAN/DOUBLE-LINE SLANTED LESS-THAN OR EQUAL TO",
     "2GREATER-THAN OR EQUAL TO/TRIPLE SOLIDUS BINARY RELATION",
     "LARGE TRIPLE VERTICAL BAR OPERATOR/DOUBLE SOLIDUS OPERATOR/WHITE VERTICAL BAR",
     "N-ARY WHITE VERTICAL BAR/NORTH EAST WHITE ARROW/1WEST WHITE ARROW/SOUTH EAST WHITE ARROW",
     "1WEST WHITE ARROW/LEFT RIGHT WHITE ARROW/LEFTWARDS BLACK ARROW/UPWARDS BLACK ARROW",
     "DOWNWARDS BLACK ARROW/NORTH EAST BLACK ARROW/1WEST BLACK ARROW/SOUTH EAST BLACK ARROW",
     "1WEST BLACK ARROW/LEFT RIGHT BLACK ARROW/UP DOWN BLACK ARROW",
     "RIGHTWARDS ARROW WITH TIP DOWNWARDS/4UPWARDS/LEFTWARDS ARROW WITH TIP DOWNWARDS/4UPWARDS",
     "SQUARE WITH TOP HALF BLACK/2BOTTOM HALF BLACK/2UPPER RIGHT DIAGONAL HALF BLACK",
     "2LOWER LEFT DIAGONAL HALF BLACK/DIAMOND WITH LEFT HALF BLACK/2RIGHT HALF BLACK",
     "2TOP HALF BLACK/2BOTTOM HALF BLACK/DOTTED SQUARE/BLACK LARGE SQUARE/WHITE LARGE SQUARE",
     "BLACK VERY SMALL SQUARE/WHITE VERY SMALL SQUARE/BLACK PENTAGON/WHITE PENTAGON/1HEXAGON",
     "BLACK HEXAGON/HORIZONTAL BLACK HEXAGON/BLACK LARGE CIRCLE/1MEDIUM DIAMOND",
     "WHITE MEDIUM DIAMOND/BLACK MEDIUM LOZENGE/WHITE MEDIUM LOZENGE/BLACK SMALL DIAMOND",
     "2LOZENGE/WHITE SMALL LOZENGE/BLACK HORIZONTAL ELLIPSE/WHITE HORIZONTAL ELLIPSE",
     "BLACK VERTICAL ELLIPSE/WHITE VERTICAL ELLIPSE/LEFT ARROW WITH SMALL CIRCLE",
     "THREE LEFTWARDS ARROWS/LEFT ARROW WITH CIRCLED PLUS/LONG LEFTWARDS SQUIGGLE ARROW",
     "LEFTWARDS TWO-HEADED ARROW WITH VERTICAL STROKE/4DOUBLE VERTICAL STROKE/3FROM BAR",
     "2TRIPLE DASH ARROW/1ARROW WITH DOTTED STEM/3TAIL WITH VERTICAL STROKE",
     "5DOUBLE VERTICAL STROKE/1TWO-HEADED ARROW WITH TAIL/5WITH VERTICAL STROKE",
     "6DOUBLE VERTICAL STROKE/1ARROW THROUGH X/WAVE ARROW POINTING DIRECTLY LEFT",
     "EQUALS SIGN ABOVE LEFTWARDS ARROW/REVERSE TILDE OPERATOR ABOVE LEFTWARDS ARROW",
     "LEFTWARDS ARROW ABOVE REVERSE ALMOST EQUAL TO/RIGHTWARDS ARROW THROUGH GREATER-THAN",
     "3SUPERSET/LEFTWARDS QUADRUPLE ARROW/RIGHTWARDS QUADRUPLE ARROW",
     "REVERSE TILDE OPERATOR ABOVE RIGHTWARDS ARROW",
     "RIGHTWARDS ARROW ABOVE REVERSE ALMOST EQUAL TO/TILDE OPERATOR ABOVE LEFTWARDS ARROW",
     "LEFTWARDS ARROW ABOVE ALMOST EQUAL TO/3REVERSE TILDE OPERATOR",
     "RIGHTWARDS ARROW ABOVE REVERSE TILDE OPERATOR/DOWNWARDS TRIANGLE-HEADED ZIGZAG ARROW",
     "SHORT SLANTED NORTH ARROW/1BACKSLANTED SOUTH ARROW/WHITE MEDIUM STAR/BLACK SMALL STAR",
     "WHITE SMALL STAR/BLACK RIGHT-POINTING PENTAGON/WHITE RIGHT-POINTING PENTAGON",
     "HEAVY LARGE CIRCLE/1OVAL WITH OVAL INSIDE/1CIRCLE WITH CIRCLE INSIDE/2/1CIRCLED SALTIRE",
     "SLANTED NORTH ARROW WITH HOOKED HEAD/BACKSLANTED SOUTH ARROW WITH HOOKED TAIL",
     "SLANTED NORTH ARROW WITH HORIZONTAL TAIL/BACKSLANTED SOUTH ARROW WITH HORIZONTAL TAIL",
     "BENT ARROW POINTING DOWNWARDS THEN NORTH EAST",
     "SHORT BENT ARROW POINTING DOWNWARDS THEN NORTH EAST/LEFTWARDS TRIANGLE-HEADED ARROW",
     "UPWARDS TRIANGLE-HEADED ARROW/RIGHTWARDS TRIANGLE-HEADED ARROW",
     "DOWNWARDS TRIANGLE-HEADED ARROW/LEFT RIGHT TRIANGLE-HEADED ARROW",
     "UP DOWN TRIANGLE-HEADED ARROW/NORTH WEST TRIANGLE-HEADED ARROW/1EAST TRIANGLE-HEADED ARROW",
     "SOUTH EAST TRIANGLE-HEADED ARROW/1WEST TRIANGLE-HEADED ARROW",
     "LEFTWARDS TRIANGLE-HEADED DASHED ARROW/UPWARDS TRIANGLE-HEADED DASHED ARROW",
     "RIGHTWARDS TRIANGLE-HEADED DASHED ARROW/DOWNWARDS TRIANGLE-HEADED DASHED ARROW",
     "CLOCKWISE TRIANGLE-HEADED OPEN CIRCLE ARROW",
     "ANTICLOCKWISE TRIANGLE-HEADED OPEN CIRCLE ARROW/LEFTWARDS TRIANGLE-HEADED ARROW TO BAR",
     "UPWARDS TRIANGLE-HEADED ARROW TO BAR/RIGHTWARDS TRIANGLE-HEADED ARROW TO BAR",
     "DOWNWARDS TRIANGLE-HEADED ARROW TO BAR"]),
   (0x2B76,
    ["NORTH WEST TRIANGLE-HEADED ARROW TO BAR/1EAST TRIANGLE-HEADED ARROW TO BAR",
     "SOUTH EAST TRIANGLE-HEADED ARROW TO BAR/1WEST TRIANGLE-HEADED ARROW TO BAR",
     "LEFTWARDS TRIANGLE-HEADED ARROW WITH DOUBLE HORIZONTAL STROKE",
     "UPWARDS TRIANGLE-HEADED ARROW WITH DOUBLE HORIZONTAL STROKE",
     "RIGHTWARDS TRIANGLE-HEADED ARROW WITH DOUBLE HORIZONTAL STROKE",
     "DOWNWARDS TRIANGLE-HEADED ARROW WITH DOUBLE HORIZONTAL STROKE/HORIZONTAL TAB KEY",
     "VERTICAL TAB KEY/LEFTWARDS TRIANGLE-HEADED ARROW OVER RIGHTWARDS TRIANGLE-HEADED ARROW",
     "UPWARDS TRIANGLE-HEADED ARROW LEFTWARDS OF DOWNWARDS TRIANGLE-HEADED ARROW",
     "RIGHTWARDS TRIANGLE-HEADED ARROW OVER LEFTWARDS TRIANGLE-HEADED ARROW",
     "DOWNWARDS TRIANGLE-HEADED ARROW LEFTWARDS OF UPWARDS TRIANGLE-HEADED ARROW",
     "LEFTWARDS TRIANGLE-HEADED PAIRED ARROWS/UPWARDS TRIANGLE-HEADED PAIRED ARROWS",
     "RIGHTWARDS TRIANGLE-HEADED PAIRED ARROWS/DOWNWARDS TRIANGLE-HEADED PAIRED ARROWS",
     "LEFTWARDS BLACK CIRCLED WHITE ARROW/UPWARDS BLACK CIRCLED WHITE ARROW",
     "RIGHTWARDS BLACK CIRCLED WHITE ARROW/DOWNWARDS BLACK CIRCLED WHITE ARROW",
     "ANTICLOCKWISE TRIANGLE-HEADED RIGHT U-SHAPED ARROW/2BOTTOM U-SHAPED ARROW",
     "2LEFT U-SHAPED ARROW/2TOP U-SHAPED ARROW/RETURN LEFT/1RIGHT/NEWLINE LEFT/1RIGHT",
     "FOUR CORNER ARROWS CIRCLING ANTICLOCKWISE/RIGHTWARDS BLACK ARROW"]),
   (0x2B97,
    ["SYMBOL FOR TYPE A ELECTRONICS/THREE-D TOP-LIGHTED LEFTWARDS EQUILATERAL ARROWHEAD",
     "1RIGHT-LIGHTED UPWARDS EQUILATERAL ARROWHEAD/1TOP-LIGHTED RIGHTWARDS EQUILATERAL ARROWHEAD",
     "1LEFT-LIGHTED DOWNWARDS EQUILATERAL ARROWHEAD/BLACK LEFTWARDS EQUILATERAL ARROWHEAD",
     "1UPWARDS EQUILATERAL ARROWHEAD/1RIGHTWARDS EQUILATERAL ARROWHEAD",
     "1DOWNWARDS EQUILATERAL ARROWHEAD/DOWNWARDS TRIANGLE-HEADED ARROW WITH LONG TIP LEFTWARDS",
     "6RIGHTWARDS/UPWARDS TRIANGLE-HEADED ARROW WITH LONG TIP LEFTWARDS/6RIGHTWARDS",
     "LEFTWARDS TRIANGLE-HEADED ARROW WITH LONG TIP UPWARDS",
     "RIGHTWARDS TRIANGLE-HEADED ARROW WITH LONG TIP UPWARDS",
     "LEFTWARDS TRIANGLE-HEADED ARROW WITH LONG TIP DOWNWARDS",
     "RIGHTWARDS TRIANGLE-HEADED ARROW WITH LONG TIP DOWNWARDS",
     "BLACK CURVED DOWNWARDS AND LEFTWARDS ARROW/4RIGHTWARDS ARROW/2UPWARDS AND LEFTWARDS ARROW",
     "4RIGHTWARDS ARROW/2LEFTWARDS AND UPWARDS ARROW/2RIGHTWARDS AND UPWARDS ARROW",
     "2LEFTWARDS AND DOWNWARDS ARROW/2RIGHTWARDS AND DOWNWARDS ARROW/RIBBON ARROW DOWN LEFT",
     "3RIGHT/2UP LEFT/3RIGHT/2LEFT UP/2RIGHT UP/2LEFT DOWN/2RIGHT DOWN",
     "UPWARDS WHITE ARROW FROM BAR WITH HORIZONTAL BAR/UP ARROWHEAD IN A RECTANGLE BOX",
     "OVERLAPPING WHITE SQUARES/2AND BLACK SQUARES/1BLACK SQUARES/BALLOT BOX WITH LIGHT X",
     "CIRCLED X/1BOLD X/BLACK SQUARE CENTRED/1DIAMOND CENTRED/TURNED BLACK PENTAGON",
     "HORIZONTAL BLACK OCTAGON/BLACK OCTAGON/1MEDIUM UP-POINTING TRIANGLE CENTRED",
     "2DOWN-POINTING TRIANGLE CENTRED/2LEFT-POINTING TRIANGLE CENTRED",
     "2RIGHT-POINTING TRIANGLE CENTRED/NEPTUNE FORM TWO/TOP HALF BLACK CIRCLE",
     "BOTTOM HALF BLACK CIRCLE/LIGHT FOUR POINTED BLACK CUSP",
     "ROTATED LIGHT FOUR POINTED BLACK CUSP/WHITE FOUR POINTED CUSP",
     "ROTATED WHITE FOUR POINTED CUSP/SQUARE POSITION INDICATOR/UNCERTAINTY SIGN/GROUP MARK",
     "PLUTO FORM TWO/2THREE/2FOUR/2FIVE/TRANSPLUTO/PROSERPINA/ASTRAEA/HYGIEA/PHOLUS/NESSUS",
     "WHITE MOON SELENA/BLACK DIAMOND ON CROSS/TRUE LIGHT MOON ARTA/CUPIDO/HADES/ZEUS/KRONOS",
     "APOLLON/ADMETOS/VULCANUS/POSEIDON/LEFT HALF BLACK STAR/RIGHT HALF BLACK STAR",
     "STAR WITH LEFT HALF BLACK/2RIGHT HALF BLACK",
     "LEFTWARDS TWO-HEADED ARROW WITH TRIANGLE ARROWHEADS",
     "UPWARDS TWO-HEADED ARROW WITH TRIANGLE ARROWHEADS",
     "RIGHTWARDS TWO-HEADED ARROW WITH TRIANGLE ARROWHEADS",
     "DOWNWARDS TWO-HEADED ARROW WITH TRIANGLE ARROWHEADS/ERIS FORM ONE/2TWO/SEDNA",
     "RUSSIAN ASTROLOGICAL SYMBOL VIGINTILE/3NOVILE/3QUINTILE/3BINOVILE/3SENTAGON/3TREDECILE",
     "EQUALS SIGN WITH INFINITY BELOW/UNITED SYMBOL/SEPARATED SYMBOL/DOUBLED SYMBOL",
     "PASSED SYMBOL/REVERSED RIGHT ANGLE/HELLSCHREIBER PAUSE SYMBOL"])]

end SchemaBridge.Text.CharName
