import Spreadsheet.Function.Text

/-! Text functions with their parameters and descriptions. -/

namespace Spreadsheet.Function

def textFunctions : List Function :=
  [⟨"LEFT", .text, 1, some 2,
     [scalar "text", scalar "num_chars"], 0,
     .eager left,
     "First num_chars characters of text (default 1). #VALUE! when num_chars is negative."⟩,
   ⟨"RIGHT", .text, 1, some 2,
     [scalar "text", scalar "num_chars"], 0,
     .eager right,
     "Last num_chars characters of text (default 1). #VALUE! when num_chars is negative."⟩,
   ⟨"MID", .text, 3, some 3,
     [scalar "text", scalar "start_num", scalar "num_chars"], 0,
     .eager mid,
     "num_chars characters of text starting at position start_num (1-based). #VALUE! when " ++
       "start_num < 1 or num_chars < 0."⟩,
   ⟨"LEN", .text, 1, some 1,
     [scalar "text"], 0,
     .eager length,
     "Number of characters in text. Numbers are measured as displayed, e.g. LEN(12.5) is 4."⟩,
   ⟨"TRIM", .text, 1, some 1,
     [scalar "text"], 0,
     .eager trimSpaces,
     "Removes leading and trailing spaces and collapses runs of inner spaces to one."⟩,
   ⟨"CONCATENATE", .text, 1, none,
     [scalar "text"], 1,
     .eager concatenate,
     "Joins its arguments as text. Ranges are not accepted (#VALUE!); use CONCAT or TEXTJOIN " ++
       "for ranges."⟩,
   ⟨"CONCAT", .text, 1, none,
     [array "text"], 1,
     .eager concat,
     "Joins its arguments as text, including every cell of ranges in row-major order."⟩,
   ⟨"TEXTJOIN", .text, 3, none,
     [scalar "delimiter", scalar "ignore_empty", array "text"], 1,
     .eager textJoin,
     "Joins the text arguments and range cells with delimiter between them, skipping empty " ++
       "values when ignore_empty is TRUE."⟩,
   ⟨"SUBSTITUTE", .text, 3, some 4,
     [scalar "text", scalar "old_text", scalar "new_text", scalar "instance_num"], 0,
     .eager substitute,
     "Replaces old_text with new_text in text (case-sensitive): every occurrence, or only " ++
       "occurrence instance_num. #VALUE! when instance_num < 1."⟩,
   ⟨"REPLACE", .text, 4, some 4,
     [scalar "old_text", scalar "start_num", scalar "num_chars", scalar "new_text"], 0,
     .eager replace,
     "Replaces num_chars characters of old_text starting at start_num (1-based) with new_text. " ++
       "#VALUE! when start_num < 1 or num_chars < 0."⟩,
   ⟨"FIND", .text, 2, some 3,
     [scalar "find_text", scalar "within_text", scalar "start_num"], 0,
     .eager find,
     "1-based position of find_text in within_text, searching case-sensitively from start_num " ++
       "(default 1). #VALUE! when not found."⟩,
   ⟨"SEARCH", .text, 2, some 3,
     [scalar "find_text", scalar "within_text", scalar "start_num"], 0,
     .eager search,
     "1-based position of find_text in within_text, case-insensitive, with * and ? wildcards (~ " ++
       "escapes), from start_num (default 1). #VALUE! when not found."⟩,
   ⟨"UPPER", .text, 1, some 1,
     [scalar "text"], 0,
     .eager upper,
     "Converts text to upper case."⟩,
   ⟨"LOWER", .text, 1, some 1,
     [scalar "text"], 0,
     .eager lower,
     "Converts text to lower case."⟩,
   ⟨"PROPER", .text, 1, some 1,
     [scalar "text"], 0,
     .eager proper,
     "Capitalizes the first letter of each word and lower-cases the rest; any non-letter starts " ++
       "a new word."⟩,
   ⟨"REPT", .text, 2, some 2,
     [scalar "text", scalar "number_times"], 0,
     .eager repeatText,
     "Repeats text number_times times. #VALUE! when number_times is negative or the result " ++
       "exceeds 32767 characters."⟩,
   ⟨"EXACT", .text, 2, some 2,
     [scalar "text1", scalar "text2"], 0,
     .eager exact,
     "TRUE when the two texts are identical, comparing case-sensitively."⟩,
   ⟨"VALUE", .text, 1, some 1,
     [scalar "text"], 0,
     .eager valueOfText,
     "Converts text to a number: numeric text (optionally with a trailing %) or ISO date text " ++
       "as a serial number. #VALUE! otherwise."⟩,
   ⟨"CHAR", .text, 1, some 1,
     [scalar "number"], 0,
     .eager char,
     "Character with code number (1-255, Latin-1). #VALUE! outside that range."⟩,
   ⟨"CODE", .text, 1, some 1,
     [scalar "text"], 0,
     .eager code,
     "Code point of the first character of text. #VALUE! for empty text."⟩]

end Spreadsheet.Function
