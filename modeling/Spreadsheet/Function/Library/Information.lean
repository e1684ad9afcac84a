import Spreadsheet.Function.Information

/-! Information functions with their parameters and descriptions. -/

namespace Spreadsheet.Function

def informationFunctions : List Function :=
  [⟨"ISBLANK", .information, 1, some 1,
     [delayed "value"], 0,
     .delayed (test Value.isBlank),
     "TRUE when value refers to an empty cell. Empty text is not blank."⟩,
   ⟨"ISERROR", .information, 1, some 1,
     [delayed "value"], 0,
     .delayed (test Value.isError),
     "TRUE when value is any error value."⟩,
   ⟨"ISERR", .information, 1, some 1,
     [delayed "value"], 0,
     .delayed (test (isErrorWith (· != .notAvailable))),
     "TRUE when value is an error other than #N/A."⟩,
   ⟨"ISNA", .information, 1, some 1,
     [delayed "value"], 0,
     .delayed (test (isErrorWith (· == .notAvailable))),
     "TRUE when value is the #N/A error."⟩,
   ⟨"ISNUMBER", .information, 1, some 1,
     [delayed "value"], 0,
     .delayed (test isNumber),
     "TRUE when value is a number. Numeric text is not a number."⟩,
   ⟨"ISTEXT", .information, 1, some 1,
     [delayed "value"], 0,
     .delayed (test isText),
     "TRUE when value is text."⟩,
   ⟨"ISLOGICAL", .information, 1, some 1,
     [delayed "value"], 0,
     .delayed (test isLogical),
     "TRUE when value is TRUE or FALSE."⟩,
   ⟨"ERROR.TYPE", .information, 1, some 1,
     [delayed "error_val"], 0,
     .delayed errorType,
     "Number of an error value: 1 #NULL!, 2 #DIV/0!, 3 #VALUE!, 4 #REF!, 5 #NAME?, 6 #NUM!, 7 " ++
       "#N/A. #N/A when the argument is not an error."⟩,
   ⟨"NA", .information, 0, some 0,
     [], 0,
     .eager notAvailable,
     "The #N/A error value."⟩]

end Spreadsheet.Function
