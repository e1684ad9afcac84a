import Spreadsheet.Function.Aggregate
import Spreadsheet.Function.Conditional

/-! Aggregation functions with their parameters and descriptions. -/

namespace Spreadsheet.Function

def aggregationFunctions : List Function :=
  [⟨"SUM", .aggregation, 1, none,
     [array "number"], 1,
     .eager (aggregate .numbers (Except.ok ∘ sum)),
     "Adds its arguments. In ranges only numbers count; direct arguments may be numbers, " ++
       "booleans or numeric text. Errors propagate."⟩,
   ⟨"AVERAGE", .aggregation, 1, none,
     [array "number"], 1,
     .eager (aggregate .numbers mean),
     "Arithmetic mean of the numbers in its arguments (range text and booleans ignored). " ++
       "#DIV/0! when there are no numbers."⟩,
   ⟨"AVERAGEA", .aggregation, 1, none,
     [array "value"], 1,
     .eager (aggregate .values mean),
     "Mean of its arguments counting range booleans as 1/0 and range text as 0. #DIV/0! when " ++
       "there are no values."⟩,
   ⟨"COUNT", .aggregation, 1, none,
     [array "value"], 1,
     .eager countNumbers,
     "Counts numbers in ranges, plus direct arguments that are numbers, booleans or numeric " ++
       "text. Error cells are not counted."⟩,
   ⟨"COUNTA", .aggregation, 1, none,
     [array "value"], 1,
     .eager countPresent,
     "Counts non-blank values, including text, booleans and error cells."⟩,
   ⟨"COUNTBLANK", .aggregation, 1, some 1,
     [array "range"], 0,
     .eager countBlank,
     "Counts blank cells and empty text in a range."⟩,
   ⟨"MIN", .aggregation, 1, none,
     [array "number"], 1,
     .eager (aggregate .numbers (extreme smaller)),
     "Smallest number in its arguments; 0 when there are no numbers."⟩,
   ⟨"MINA", .aggregation, 1, none,
     [array "value"], 1,
     .eager (aggregate .values (extreme smaller)),
     "Smallest value counting range booleans as 1/0 and range text as 0; 0 when empty."⟩,
   ⟨"MAX", .aggregation, 1, none,
     [array "number"], 1,
     .eager (aggregate .numbers (extreme larger)),
     "Largest number in its arguments; 0 when there are no numbers."⟩,
   ⟨"MAXA", .aggregation, 1, none,
     [array "value"], 1,
     .eager (aggregate .values (extreme larger)),
     "Largest value counting range booleans as 1/0 and range text as 0; 0 when empty."⟩,
   ⟨"MEDIAN", .aggregation, 1, none,
     [array "number"], 1,
     .eager (aggregate .numbers median),
     "Middle value of the numbers (mean of the two middle values for an even count). #NUM! when " ++
       "there are no numbers."⟩,
   ⟨"MODE", .aggregation, 1, none,
     [array "number"], 1,
     .eager (aggregate .numbers mode),
     "Most frequent number; ties go to the value seen first. #N/A when no number repeats."⟩,
   ⟨"MODE.SNGL", .aggregation, 1, none,
     [array "number"], 1,
     .eager (aggregate .numbers mode),
     "Most frequent number; ties go to the value seen first. #N/A when no number repeats."⟩,
   ⟨"PRODUCT", .aggregation, 1, none,
     [array "number"], 1,
     .eager (aggregate .numbers product),
     "Multiplies the numbers in its arguments; 0 when there are no numbers."⟩,
   ⟨"SUMSQ", .aggregation, 1, none,
     [array "number"], 1,
     .eager (aggregate .numbers sumOfSquares),
     "Sum of the squares of the numbers in its arguments."⟩,
   ⟨"LARGE", .aggregation, 2, some 2,
     [array "array", scalar "k"], 0,
     .eager large,
     "k-th largest number in an array (k rounded up). #NUM! when k < 1 or k exceeds the count."⟩,
   ⟨"SMALL", .aggregation, 2, some 2,
     [array "array", scalar "k"], 0,
     .eager small,
     "k-th smallest number in an array (k rounded up). #NUM! when k < 1 or k exceeds the count."⟩,
   ⟨"STDEV", .aggregation, 1, none,
     [array "number"], 1,
     .eager (aggregate .numbers (deviation true)),
     "Sample standard deviation (divides by n-1). #DIV/0! with fewer than two numbers."⟩,
   ⟨"STDEV.S", .aggregation, 1, none,
     [array "number"], 1,
     .eager (aggregate .numbers (deviation true)),
     "Sample standard deviation (divides by n-1). #DIV/0! with fewer than two numbers."⟩,
   ⟨"STDEVA", .aggregation, 1, none,
     [array "value"], 1,
     .eager (aggregate .values (deviation true)),
     "Sample standard deviation counting range booleans as 1/0 and range text as 0."⟩,
   ⟨"STDEV.P", .aggregation, 1, none,
     [array "number"], 1,
     .eager (aggregate .numbers (deviation false)),
     "Population standard deviation (divides by n). #DIV/0! when there are no numbers."⟩,
   ⟨"STDEVP", .aggregation, 1, none,
     [array "number"], 1,
     .eager (aggregate .numbers (deviation false)),
     "Population standard deviation (divides by n). #DIV/0! when there are no numbers."⟩,
   ⟨"STDEVPA", .aggregation, 1, none,
     [array "value"], 1,
     .eager (aggregate .values (deviation false)),
     "Population standard deviation counting range booleans as 1/0 and range text as 0."⟩,
   ⟨"VAR", .aggregation, 1, none,
     [array "number"], 1,
     .eager (aggregate .numbers (variance true)),
     "Sample variance (divides by n-1). #DIV/0! with fewer than two numbers."⟩,
   ⟨"VAR.S", .aggregation, 1, none,
     [array "number"], 1,
     .eager (aggregate .numbers (variance true)),
     "Sample variance (divides by n-1). #DIV/0! with fewer than two numbers."⟩,
   ⟨"VARA", .aggregation, 1, none,
     [array "value"], 1,
     .eager (aggregate .values (variance true)),
     "Sample variance counting range booleans as 1/0 and range text as 0."⟩,
   ⟨"VAR.P", .aggregation, 1, none,
     [array "number"], 1,
     .eager (aggregate .numbers (variance false)),
     "Population variance (divides by n). #DIV/0! when there are no numbers."⟩,
   ⟨"VARP", .aggregation, 1, none,
     [array "number"], 1,
     .eager (aggregate .numbers (variance false)),
     "Population variance (divides by n). #DIV/0! when there are no numbers."⟩,
   ⟨"VARPA", .aggregation, 1, none,
     [array "value"], 1,
     .eager (aggregate .values (variance false)),
     "Population variance counting range booleans as 1/0 and range text as 0."⟩,
   ⟨"SUMIF", .aggregation, 2, some 3,
     [array "range", scalar "criteria", array "sum_range"], 0,
     .eager sumIf,
     "Sums the cells of sum_range (default: range) whose counterpart in range meets the " ++
       "criteria, e.g. \">5\", \"<>0\", \"app*\"."⟩,
   ⟨"COUNTIF", .aggregation, 2, some 2,
     [array "range", scalar "criteria"], 0,
     .eager countIf,
     "Counts the cells in range that meet the criteria (number, text with * and ? wildcards, or " ++
       "a comparison such as \">=10\")."⟩,
   ⟨"AVERAGEIF", .aggregation, 2, some 3,
     [array "range", scalar "criteria", array "average_range"], 0,
     .eager averageIf,
     "Mean of the cells of average_range (default: range) whose counterpart in range meets the " ++
       "criteria. #DIV/0! when nothing matches."⟩,
   ⟨"SUMIFS", .aggregation, 3, none,
     [array "sum_range", array "criteria_range", scalar "criteria"], 2,
     .eager sumIfs,
     "Sums sum_range where every criteria_range/criteria pair matches. All ranges must have the " ++
       "same shape, otherwise #VALUE!."⟩,
   ⟨"COUNTIFS", .aggregation, 2, none,
     [array "criteria_range", scalar "criteria"], 2,
     .eager countIfs,
     "Counts positions where every criteria_range/criteria pair matches. All ranges must have " ++
       "the same shape, otherwise #VALUE!."⟩,
   ⟨"AVERAGEIFS", .aggregation, 3, none,
     [array "average_range", array "criteria_range", scalar "criteria"], 2,
     .eager averageIfs,
     "Mean of average_range where every criteria_range/criteria pair matches. #DIV/0! when " ++
       "nothing matches."⟩]

end Spreadsheet.Function
