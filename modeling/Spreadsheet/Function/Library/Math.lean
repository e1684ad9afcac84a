import Spreadsheet.Function.Math
import Spreadsheet.Function.Conditional

/-! Mathematical functions with their parameters and descriptions. -/

namespace Spreadsheet.Function

def mathFunctions : List Function :=
  [⟨"ROUND", .math, 1, some 2,
     [scalar "number", scalar "num_digits"], 0,
     .eager (roundScaled roundHalfUp),
     "Rounds number to num_digits decimal places (default 0), halves away from zero. Negative " ++
       "num_digits rounds left of the decimal point."⟩,
   ⟨"ROUNDUP", .math, 1, some 2,
     [scalar "number", scalar "num_digits"], 0,
     .eager roundUp,
     "Rounds number away from zero to num_digits decimal places (default 0)."⟩,
   ⟨"ROUNDDOWN", .math, 1, some 2,
     [scalar "number", scalar "num_digits"], 0,
     .eager (roundScaled Number.floor),
     "Rounds number toward zero to num_digits decimal places (default 0)."⟩,
   ⟨"MOD", .math, 2, some 2,
     [scalar "number", scalar "divisor"], 0,
     .eager modulo,
     "Remainder of number / divisor, with the sign of the divisor. #DIV/0! when divisor is 0."⟩,
   ⟨"ABS", .math, 1, some 1,
     [scalar "number"], 0,
     .eager (unaryTotal Float.abs),
     "Absolute value of number."⟩,
   ⟨"POWER", .math, 2, some 2,
     [scalar "number", scalar "power"], 0,
     .eager power,
     "number raised to power, like the ^ operator. #NUM! for 0^0 or a negative number with a " ++
       "fractional power; #DIV/0! for 0 to a negative power."⟩,
   ⟨"SQRT", .math, 1, some 1,
     [scalar "number"], 0,
     .eager (unary squareRoot),
     "Positive square root of number. #NUM! when number is negative."⟩,
   ⟨"PI", .math, 0, some 0,
     [], 0,
     .eager (constant (.number Number.pi)),
     "The constant pi, 3.14159265358979."⟩,
   ⟨"SIN", .math, 1, some 1,
     [scalar "number"], 0,
     .eager (unary (ofAngle Float.sin)),
     "Sine of an angle in radians. #NUM! when |number| >= 2^27."⟩,
   ⟨"COS", .math, 1, some 1,
     [scalar "number"], 0,
     .eager (unary (ofAngle Float.cos)),
     "Cosine of an angle in radians. #NUM! when |number| >= 2^27."⟩,
   ⟨"TAN", .math, 1, some 1,
     [scalar "number"], 0,
     .eager (unary (ofAngle Float.tan)),
     "Tangent of an angle in radians. #NUM! when |number| >= 2^27."⟩,
   ⟨"ASIN", .math, 1, some 1,
     [scalar "number"], 0,
     .eager (unary (ofUnitInterval Float.asin)),
     "Arcsine in radians. #NUM! when number is outside -1..1."⟩,
   ⟨"ACOS", .math, 1, some 1,
     [scalar "number"], 0,
     .eager (unary (ofUnitInterval Float.acos)),
     "Arccosine in radians. #NUM! when number is outside -1..1."⟩,
   ⟨"ATAN", .math, 1, some 1,
     [scalar "number"], 0,
     .eager (unaryTotal Float.atan),
     "Arctangent in radians."⟩,
   ⟨"ATAN2", .math, 2, some 2,
     [scalar "x_num", scalar "y_num"], 0,
     .eager arcTangent2,
     "Angle in radians of the point (x_num, y_num) from the x axis. #DIV/0! when both are 0."⟩,
   ⟨"SINH", .math, 1, some 1,
     [scalar "number"], 0,
     .eager (unaryTotal Float.sinh),
     "Hyperbolic sine of number."⟩,
   ⟨"COSH", .math, 1, some 1,
     [scalar "number"], 0,
     .eager (unaryTotal Float.cosh),
     "Hyperbolic cosine of number."⟩,
   ⟨"TANH", .math, 1, some 1,
     [scalar "number"], 0,
     .eager (unaryTotal Float.tanh),
     "Hyperbolic tangent of number."⟩,
   ⟨"DEGREES", .math, 1, some 1,
     [scalar "angle"], 0,
     .eager (unaryTotal toDegrees),
     "Converts radians to degrees."⟩,
   ⟨"RADIANS", .math, 1, some 1,
     [scalar "angle"], 0,
     .eager (unaryTotal toRadians),
     "Converts degrees to radians."⟩,
   ⟨"EXP", .math, 1, some 1,
     [scalar "number"], 0,
     .eager (unaryTotal Float.exp),
     "e raised to number. #NUM! when the result overflows."⟩,
   ⟨"LN", .math, 1, some 1,
     [scalar "number"], 0,
     .eager (unary (ofPositive Float.log)),
     "Natural logarithm. #NUM! when number <= 0."⟩,
   ⟨"LOG", .math, 1, some 2,
     [scalar "number", scalar "base"], 0,
     .eager logarithm,
     "Logarithm of number to base (default 10). #NUM! when number or base <= 0; #DIV/0! when " ++
       "base is 1."⟩,
   ⟨"LOG10", .math, 1, some 1,
     [scalar "number"], 0,
     .eager (unary (ofPositive Float.log10)),
     "Base-10 logarithm. #NUM! when number <= 0."⟩,
   ⟨"INT", .math, 1, some 1,
     [scalar "number"], 0,
     .eager (unaryTotal Number.floor),
     "Rounds number down to the nearest integer, toward negative infinity."⟩,
   ⟨"TRUNC", .math, 1, some 2,
     [scalar "number", scalar "num_digits"], 0,
     .eager (roundScaled Number.floor),
     "Truncates number toward zero to num_digits decimal places (default 0)."⟩,
   ⟨"SIGN", .math, 1, some 1,
     [scalar "number"], 0,
     .eager (unaryTotal sign),
     "1 for a positive number, -1 for a negative number, 0 for zero."⟩,
   ⟨"CEILING", .math, 1, some 2,
     [scalar "number", scalar "significance"], 0,
     .eager ceiling,
     "Rounds number up to a multiple of significance (default 1); negative numbers with a " ++
       "negative significance round away from zero. 0 when significance is 0; #NUM! when number " ++
       "is positive and significance negative."⟩,
   ⟨"FLOOR", .math, 1, some 2,
     [scalar "number", scalar "significance"], 0,
     .eager floor,
     "Rounds number down to a multiple of significance (default 1); negative numbers with a " ++
       "negative significance round toward zero. #DIV/0! when significance is 0; #NUM! when " ++
       "number is positive and significance negative."⟩,
   ⟨"SUMPRODUCT", .math, 1, none,
     [array "array"], 1,
     .eager sumProduct,
     "Sum of the products of corresponding elements of equally-sized arrays. Non-numeric " ++
       "elements count as 0; #VALUE! when the sizes differ."⟩,
   ⟨"BITAND", .math, 2, some 2,
     [scalar "number1", scalar "number2"], 0,
     .eager (bitwise (· &&& ·)),
     "Bitwise AND of two integers in 0..2^48. #NUM! otherwise."⟩,
   ⟨"BITOR", .math, 2, some 2,
     [scalar "number1", scalar "number2"], 0,
     .eager (bitwise (· ||| ·)),
     "Bitwise OR of two integers in 0..2^48. #NUM! otherwise."⟩,
   ⟨"BITXOR", .math, 2, some 2,
     [scalar "number1", scalar "number2"], 0,
     .eager (bitwise (· ^^^ ·)),
     "Bitwise exclusive OR of two integers in 0..2^48. #NUM! otherwise."⟩,
   ⟨"BITLSHIFT", .math, 2, some 2,
     [scalar "number", scalar "shift_amount"], 0,
     .eager (shift 1),
     "number shifted left by shift_amount bits (right when negative). #NUM! when |shift_amount| " ++
       "> 53 or the result reaches 2^48."⟩,
   ⟨"BITRSHIFT", .math, 2, some 2,
     [scalar "number", scalar "shift_amount"], 0,
     .eager (shift (-1)),
     "number shifted right by shift_amount bits (left when negative). #NUM! when |shift_amount| " ++
       "> 53 or the result reaches 2^48."⟩]

end Spreadsheet.Function
