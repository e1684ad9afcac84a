import Spreadsheet.Function.Date

/-! Date functions with their parameters and descriptions. -/

namespace Spreadsheet.Function

def dateFunctions : List Function :=
  [⟨"DATE", .date, 3, some 3,
     [scalar "year", scalar "month", scalar "day"], 0,
     .eager date,
     "Serial number of the given date. Years 0-1899 are offset by 1900; months and days outside " ++
       "their range roll over into neighbouring months and years. #NUM! for years outside " ++
       "0-9999 or dates before the epoch."⟩,
   ⟨"DATEVALUE", .date, 1, some 1,
     [scalar "date_text"], 0,
     .eager dateValue,
     "Serial number of an ISO date text (YYYY-MM-DD, optionally followed by a time). Invalid " ++
       "date text is #VALUE!."⟩,
   ⟨"YEAR", .date, 1, some 1,
     [scalar "serial_number"], 0,
     .eager (datePart Date.year),
     "Year of a date given as a serial number or ISO date text."⟩,
   ⟨"MONTH", .date, 1, some 1,
     [scalar "serial_number"], 0,
     .eager (datePart (Date.month ·)),
     "Month (1-12) of a date given as a serial number or ISO date text."⟩,
   ⟨"DAY", .date, 1, some 1,
     [scalar "serial_number"], 0,
     .eager (datePart (Date.day ·)),
     "Day of the month (1-31) of a date given as a serial number or ISO date text."⟩,
   ⟨"WEEKDAY", .date, 1, some 2,
     [scalar "serial_number", scalar "return_type"], 0,
     .eager weekday,
     "Day of the week. return_type 1 (default): Sunday=1..Saturday=7; 2: Monday=1..Sunday=7; 3: " ++
       "Monday=0..Sunday=6; 11-17: 1 for Monday..Sunday respectively as the first day. Other " ++
       "return types are #NUM!."⟩,
   ⟨"WEEKNUM", .date, 1, some 2,
     [scalar "serial_number", scalar "return_type"], 0,
     .eager weekNumber,
     "Week of the year, counting the week containing January 1 as week 1. return_type 1 " ++
       "(default) starts weeks on Sunday, 2 on Monday, 11-17 on Monday..Sunday; 21 returns the " ++
       "ISO 8601 week number."⟩,
   ⟨"EDATE", .date, 2, some 2,
     [scalar "start_date", scalar "months"], 0,
     .eager monthsLater,
     "Serial number of the date months after start_date (negative goes back), clamped to the " ++
       "end of the target month."⟩,
   ⟨"EOMONTH", .date, 2, some 2,
     [scalar "start_date", scalar "months"], 0,
     .eager endOfMonth,
     "Serial number of the last day of the month months after start_date."⟩,
   ⟨"NETWORKDAYS", .date, 2, some 3,
     [scalar "start_date", scalar "end_date", array "holidays"], 0,
     .eager netWorkdays,
     "Number of weekdays (Monday-Friday) from start_date to end_date inclusive, excluding " ++
       "holidays. Negative when end_date precedes start_date."⟩,
   ⟨"WORKDAY", .date, 2, some 3,
     [scalar "start_date", scalar "days", array "holidays"], 0,
     .eager workday,
     "Serial number of the date days working days (Monday-Friday, not a holiday) after " ++
       "start_date; negative days go back."⟩,
   ⟨"YEARFRAC", .date, 2, some 3,
     [scalar "start_date", scalar "end_date", scalar "basis"], 0,
     .eager yearFraction,
     "Fraction of a year between two dates. basis 0 (default): US 30/360; 1: actual/actual; 2: " ++
       "actual/360; 3: actual/365; 4: European 30/360. Other bases are #NUM!."⟩,
   ⟨"DAYS", .date, 2, some 2,
     [scalar "end_date", scalar "start_date"], 0,
     .eager daysBetween,
     "Number of days from start_date to end_date (negative when end_date is earlier)."⟩,
   ⟨"DATEDIF", .date, 3, some 3,
     [scalar "start_date", scalar "end_date", scalar "unit"], 0,
     .eager dateDifference,
     "Difference between two dates in whole units: \"Y\" years, \"M\" months, \"D\" days, " ++
       "\"MD\" days ignoring months and years, \"YM\" months ignoring years, \"YD\" days " ++
       "ignoring years. #NUM! when start_date is after end_date or the unit is unknown."⟩]

end Spreadsheet.Function
