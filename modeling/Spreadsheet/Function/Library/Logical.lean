import Spreadsheet.Function.Logical

/-! Logical functions with their parameters and descriptions. -/

namespace Spreadsheet.Function

def logicalFunctions : List Function :=
  [⟨"IF", .logical, 2, some 3,
     [delayed "logical_test", delayed "value_if_true", delayed "value_if_false"], 0,
     .delayed ifThenElse,
     "Returns value_if_true when logical_test is TRUE (or a non-zero number), otherwise " ++
       "value_if_false (FALSE when omitted). Only the chosen branch is evaluated."⟩,
   ⟨"AND", .logical, 1, none,
     [array "logical"], 1,
     .eager (logical fun bs => bs.all id),
     "TRUE when every argument is TRUE. Numbers count as TRUE when non-zero; text in ranges is " ++
       "ignored. #VALUE! when there is nothing to test."⟩,
   ⟨"OR", .logical, 1, none,
     [array "logical"], 1,
     .eager (logical fun bs => bs.any id),
     "TRUE when any argument is TRUE. Numbers count as TRUE when non-zero; text in ranges is " ++
       "ignored. #VALUE! when there is nothing to test."⟩,
   ⟨"XOR", .logical, 1, none,
     [array "logical"], 1,
     .eager (logical isOdd),
     "TRUE when an odd number of arguments are TRUE. Numbers count as TRUE when non-zero; text " ++
       "in ranges is ignored."⟩,
   ⟨"NOT", .logical, 1, some 1,
     [scalar "logical"], 0,
     .eager negation,
     "Reverses a logical value; numbers are TRUE when non-zero."⟩,
   ⟨"IFS", .logical, 2, none,
     [delayed "logical_test", delayed "value_if_true"], 2,
     .delayed ifs,
     "Returns the value paired with the first TRUE test, evaluating tests left to right and " ++
       "only the chosen value. #N/A when no test is TRUE; #VALUE! when tests and values are not " ++
       "paired."⟩,
   ⟨"SWITCH", .logical, 3, none,
     [delayed "expression", delayed "value", delayed "result"], 2,
     .delayed switch,
     "Compares expression against each value (text case-insensitively) and returns the result " ++
       "paired with the first match. A trailing unpaired argument is the default; #N/A when " ++
       "nothing matches and there is no default."⟩,
   ⟨"IFERROR", .logical, 2, some 2,
     [delayed "value", delayed "value_if_error"], 0,
     .delayed (replaceError fun _ => true),
     "Returns value unless it is an error, in which case value_if_error is evaluated and " ++
       "returned."⟩,
   ⟨"IFNA", .logical, 2, some 2,
     [delayed "value", delayed "value_if_na"], 0,
     .delayed (replaceError fun e => e.kind == .notAvailable),
     "Returns value unless it is #N/A, in which case value_if_na is evaluated and returned. " ++
       "Other errors pass through."⟩,
   ⟨"TRUE", .logical, 0, some 0,
     [], 0,
     .eager (constant (.boolean true)),
     "The logical value TRUE."⟩,
   ⟨"FALSE", .logical, 0, some 0,
     [], 0,
     .eager (constant (.boolean false)),
     "The logical value FALSE."⟩]

end Spreadsheet.Function
