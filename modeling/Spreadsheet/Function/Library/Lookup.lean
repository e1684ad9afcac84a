import Spreadsheet.Function.Lookup

/-! Lookup functions with their parameters and descriptions. -/

namespace Spreadsheet.Function

def lookupFunctions : List Function :=
  [⟨"VLOOKUP", .lookup, 3, some 4,
     [scalar "lookup_value", array "table_array", scalar "col_index_num",
       scalar "range_lookup"], 0,
     .eager verticalLookup,
     "Searches the first column of table_array for lookup_value and returns the value in the " ++
       "same row from column col_index_num (1-based). range_lookup FALSE finds an exact match " ++
       "(text case-insensitive, * and ? wildcards allowed); TRUE or omitted assumes the first " ++
       "column is sorted ascending and returns the last row not greater than lookup_value. No " ++
       "match is #N/A; col_index_num below 1 is #VALUE!, beyond the table #REF!."⟩,
   ⟨"HLOOKUP", .lookup, 3, some 4,
     [scalar "lookup_value", array "table_array", scalar "row_index_num",
       scalar "range_lookup"], 0,
     .eager horizontalLookup,
     "Searches the first row of table_array for lookup_value and returns the value in the same " ++
       "column from row row_index_num (1-based). Matching rules are those of VLOOKUP. No match " ++
       "is #N/A; row_index_num below 1 is #VALUE!, beyond the table #REF!."⟩,
   ⟨"INDEX", .lookup, 2, some 3,
     [array "array", scalar "row_num", scalar "column_num"], 0,
     .eager index,
     "Returns the element of array at row_num and column_num (1-based). For a single-row array " ++
       "a lone index selects the column. 0 selects the whole row or column. Negative indexes " ++
       "are #VALUE!; indexes beyond the array are #REF!."⟩,
   ⟨"MATCH", .lookup, 2, some 3,
     [scalar "lookup_value", array "lookup_array", scalar "match_type"], 0,
     .eager matchPosition,
     "Returns the 1-based position of lookup_value in a single row or column. match_type 0 " ++
       "finds an exact match (wildcards allowed); 1 or omitted finds the largest value not " ++
       "greater than lookup_value in ascending data; -1 finds the smallest value not less than " ++
       "lookup_value in descending data. No match is #N/A."⟩,
   ⟨"CHOOSE", .lookup, 2, none,
     [scalar "index_num", delayed "value"], 1,
     .delayed choose,
     "Returns the value at position index_num (1-based) among the following arguments; only the " ++
       "chosen argument is evaluated. index_num below 1 or beyond the last value is #VALUE!."⟩,
   ⟨"ROWS", .lookup, 1, some 1,
     [array "array"], 0,
     .eager rowsOf,
     "Number of rows in a range or array; a single value has 1."⟩,
   ⟨"COLUMNS", .lookup, 1, some 1,
     [array "array"], 0,
     .eager columnsOf,
     "Number of columns in a range or array; a single value has 1."⟩]

end Spreadsheet.Function
