import Spreadsheet.Function.Library.Aggregation
import Spreadsheet.Function.Library.Lookup
import Spreadsheet.Function.Library.Logical
import Spreadsheet.Function.Library.Information
import Spreadsheet.Function.Library.Date
import Spreadsheet.Function.Library.Financial
import Spreadsheet.Function.Library.Text
import Spreadsheet.Function.Library.Math
import Spreadsheet.Function.Library.Statistical

/-! The library of built-in functions, sorted by name. -/

namespace Spreadsheet.Function

/-- Inserts a function into functions sorted by name. -/
def insertByName (f : Function) : List Function → List Function
  | [] => [f]
  | g :: gs => if f.name < g.name then f :: g :: gs else g :: insertByName f gs

def sortByName (fs : List Function) : List Function := fs.foldr insertByName []

/-- All functions, sorted by name. -/
def all : List Function :=
  sortByName (aggregationFunctions ++ lookupFunctions ++ logicalFunctions ++
    informationFunctions ++ dateFunctions ++ financialFunctions ++ textFunctions ++
    mathFunctions ++ statisticalFunctions)

/-- The function with a name, in any case of letters. -/
def find? (name : String) : Option Function :=
  let upper := name.toUpper
  all.find? fun f => f.name == upper

def ofCategory (c : Category) : List Function := all.filter fun f => f.category == c

end Spreadsheet.Function
