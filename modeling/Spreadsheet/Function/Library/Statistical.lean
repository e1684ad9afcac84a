import Spreadsheet.Function.Distribution

/-! Statistical functions with their parameters and descriptions. -/

namespace Spreadsheet.Function

def statisticalFunctions : List Function :=
  [⟨"NORM.DIST", .statistical, 4, some 4,
     [scalar "x", scalar "mean", scalar "standard_dev", scalar "cumulative"], 0,
     .eager normalDistribution,
     "Normal distribution at x with the given mean and standard_dev: the cumulative probability " ++
       "when cumulative is TRUE, else the density. #NUM! when standard_dev <= 0."⟩,
   ⟨"NORMDIST", .statistical, 4, some 4,
     [scalar "x", scalar "mean", scalar "standard_dev", scalar "cumulative"], 0,
     .eager normalDistribution,
     "Legacy name of NORM.DIST."⟩,
   ⟨"NORM.S.DIST", .statistical, 2, some 2,
     [scalar "z", scalar "cumulative"], 0,
     .eager standardNormal,
     "Standard normal distribution at z: cumulative probability when cumulative is TRUE, else " ++
       "the density."⟩,
   ⟨"NORMSDIST", .statistical, 1, some 1,
     [scalar "z"], 0,
     .eager cumulativeStandardNormal,
     "Cumulative standard normal distribution at z."⟩,
   ⟨"NORM.INV", .statistical, 3, some 3,
     [scalar "probability", scalar "mean", scalar "standard_dev"], 0,
     .eager normalInverse,
     "Inverse of the cumulative normal distribution. #NUM! when probability is outside (0, 1) " ++
       "or standard_dev <= 0."⟩,
   ⟨"NORMINV", .statistical, 3, some 3,
     [scalar "probability", scalar "mean", scalar "standard_dev"], 0,
     .eager normalInverse,
     "Legacy name of NORM.INV."⟩,
   ⟨"BINOM.DIST", .statistical, 4, some 4,
     [scalar "number_s", scalar "trials", scalar "probability_s", scalar "cumulative"], 0,
     .eager binomialDistribution,
     "Binomial probability of number_s successes in trials (both truncated) with success " ++
       "probability probability_s; cumulative when TRUE. #NUM! when number_s is outside " ++
       "0..trials or probability_s is outside 0..1."⟩,
   ⟨"BINOMDIST", .statistical, 4, some 4,
     [scalar "number_s", scalar "trials", scalar "probability_s", scalar "cumulative"], 0,
     .eager binomialDistribution,
     "Legacy name of BINOM.DIST."⟩,
   ⟨"PERCENTILE.INC", .statistical, 2, some 2,
     [array "array", scalar "k"], 0,
     .eager (percentile percentileIncluding),
     "k-th percentile of the numbers in array, k in 0..1 inclusive, interpolating between " ++
       "ranks. #NUM! for k outside 0..1 or no numbers."⟩,
   ⟨"PERCENTILE", .statistical, 2, some 2,
     [array "array", scalar "k"], 0,
     .eager (percentile percentileIncluding),
     "Legacy name of PERCENTILE.INC."⟩,
   ⟨"PERCENTILE.EXC", .statistical, 2, some 2,
     [array "array", scalar "k"], 0,
     .eager (percentile percentileExcluding),
     "k-th percentile of the numbers in array, k strictly between 0 and 1, using rank k*(n+1). " ++
       "#NUM! when the rank falls outside the data."⟩,
   ⟨"QUARTILE.INC", .statistical, 2, some 2,
     [array "array", scalar "quart"], 0,
     .eager (quartile percentileIncluding 0 4),
     "Quartile quart (0-4, truncated) of the numbers in array, as PERCENTILE.INC(array, " ++
       "quart/4). #NUM! for other quart values."⟩,
   ⟨"QUARTILE", .statistical, 2, some 2,
     [array "array", scalar "quart"], 0,
     .eager (quartile percentileIncluding 0 4),
     "Legacy name of QUARTILE.INC."⟩,
   ⟨"QUARTILE.EXC", .statistical, 2, some 2,
     [array "array", scalar "quart"], 0,
     .eager (quartile percentileExcluding 1 3),
     "Quartile quart (1-3, truncated) of the numbers in array, as PERCENTILE.EXC(array, quart/4)."⟩,
   ⟨"CORREL", .statistical, 2, some 2,
     [array "array1", array "array2"], 0,
     .eager correlation,
     "Pearson correlation coefficient of two equally-sized arrays, using positions where both " ++
       "hold numbers. #N/A when the sizes differ; #DIV/0! when either side has no variance."⟩,
   ⟨"PEARSON", .statistical, 2, some 2,
     [array "array1", array "array2"], 0,
     .eager correlation,
     "Same as CORREL."⟩,
   ⟨"SLOPE", .statistical, 2, some 2,
     [array "known_y's", array "known_x's"], 0,
     .eager slope,
     "Slope of the least-squares line through the (known_x, known_y) pairs. #N/A when the sizes " ++
       "differ; #DIV/0! when the x values do not vary."⟩,
   ⟨"INTERCEPT", .statistical, 2, some 2,
     [array "known_y's", array "known_x's"], 0,
     .eager intercept,
     "y-intercept of the least-squares line through the (known_x, known_y) pairs."⟩,
   ⟨"RSQ", .statistical, 2, some 2,
     [array "known_y's", array "known_x's"], 0,
     .eager determination,
     "Square of the Pearson correlation of the (known_x, known_y) pairs."⟩,
   ⟨"FORECAST.LINEAR", .statistical, 3, some 3,
     [scalar "x", array "known_y's", array "known_x's"], 0,
     .eager forecast,
     "Value at x of the least-squares line through the (known_x, known_y) pairs."⟩,
   ⟨"FORECAST", .statistical, 3, some 3,
     [scalar "x", array "known_y's", array "known_x's"], 0,
     .eager forecast,
     "Legacy name of FORECAST.LINEAR."⟩,
   ⟨"LINEST", .statistical, 1, some 4,
     [array "known_y's", array "known_x's", scalar "const", scalar "stats"], 0,
     .eager linearRegression,
     "Simple linear regression of known_y's on known_x's (default 1, 2, 3, ...). Returns " ++
       "\x7bslope, intercept\x7d; with const FALSE the line passes through the origin. With " ++
       "stats TRUE returns a 5x2 array adding standard errors, r-squared and the standard error " ++
       "of y, the F statistic and degrees of freedom, and the regression and residual sums of " ++
       "squares."⟩]

end Spreadsheet.Function
