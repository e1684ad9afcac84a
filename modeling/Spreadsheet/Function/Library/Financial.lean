import Spreadsheet.Function.Financial

/-! Financial functions with their parameters and descriptions. -/

namespace Spreadsheet.Function

def financialFunctions : List Function :=
  [⟨"PMT", .financial, 3, some 5,
     [scalar "rate", scalar "nper", scalar "pv", scalar "fv", scalar "type"], 0,
     .eager payment,
     "Payment per period for a loan or annuity with constant payments and a constant rate. fv " ++
       "defaults to 0, type to 0 (end of period). #NUM! when nper is 0."⟩,
   ⟨"IPMT", .financial, 4, some 6,
     [scalar "rate", scalar "per", scalar "nper", scalar "pv", scalar "fv", scalar "type"], 0,
     .eager interestPayment,
     "Interest part of the payment for period per (1-based) of a constant-payment loan. #NUM! " ++
       "when per is outside 1..nper."⟩,
   ⟨"PPMT", .financial, 4, some 6,
     [scalar "rate", scalar "per", scalar "nper", scalar "pv", scalar "fv", scalar "type"], 0,
     .eager principalPayment,
     "Principal part of the payment for period per (1-based): PMT minus IPMT. #NUM! when per is " ++
       "outside 1..nper."⟩,
   ⟨"FV", .financial, 3, some 5,
     [scalar "rate", scalar "nper", scalar "pmt", scalar "pv", scalar "type"], 0,
     .eager futureValue,
     "Future value of an investment with periodic constant payments and a constant rate. pv " ++
       "defaults to 0, type to 0."⟩,
   ⟨"PV", .financial, 3, some 5,
     [scalar "rate", scalar "nper", scalar "pmt", scalar "fv", scalar "type"], 0,
     .eager presentValue,
     "Present value of a series of constant future payments. fv defaults to 0, type to 0."⟩,
   ⟨"NPER", .financial, 3, some 5,
     [scalar "rate", scalar "pmt", scalar "pv", scalar "fv", scalar "type"], 0,
     .eager periodCount,
     "Number of periods needed to reach fv from pv with constant payments pmt. #NUM! when no " ++
       "number of periods can do it."⟩,
   ⟨"NPV", .financial, 2, none,
     [scalar "rate", array "value"], 1,
     .eager netPresentValue,
     "Net present value of cash flows at the end of periods 1, 2, ... discounted at rate. Text " ++
       "and booleans in ranges are ignored. #DIV/0! when rate is -1."⟩,
   ⟨"IRR", .financial, 1, some 2,
     [array "values", scalar "guess"], 0,
     .eager internalRate,
     "Internal rate of return of periodic cash flows, found with Newton's method from guess " ++
       "(default 0.1), at most 100 iterations, tolerance 1e-10. #NUM! when the flows do not " ++
       "change sign or the iteration does not converge."⟩,
   ⟨"RATE", .financial, 3, some 6,
     [scalar "nper", scalar "pmt", scalar "pv", scalar "fv", scalar "type", scalar "guess"], 0,
     .eager rateOf,
     "Interest rate per period of an annuity, found with Newton's method from guess (default " ++
       "0.1), at most 100 iterations, tolerance 1e-10. #NUM! when the iteration does not " ++
       "converge."⟩,
   ⟨"CUMIPMT", .financial, 6, some 6,
     [scalar "rate", scalar "nper", scalar "pv", scalar "start_period", scalar "end_period",
       scalar "type"], 0,
     .eager cumulativeInterest,
     "Cumulative interest paid from start_period to end_period inclusive. #NUM! unless rate, " ++
       "nper and pv are positive, 1 <= start <= end <= nper and type is 0 or 1. #NUM! when " ++
       "end_period exceeds 1,000,000."⟩,
   ⟨"CUMPRINC", .financial, 6, some 6,
     [scalar "rate", scalar "nper", scalar "pv", scalar "start_period", scalar "end_period",
       scalar "type"], 0,
     .eager cumulativePrincipal,
     "Cumulative principal paid from start_period to end_period inclusive. #NUM! unless rate, " ++
       "nper and pv are positive, 1 <= start <= end <= nper and type is 0 or 1. #NUM! when " ++
       "end_period exceeds 1,000,000."⟩,
   ⟨"DB", .financial, 4, some 5,
     [scalar "cost", scalar "salvage", scalar "life", scalar "period", scalar "month"], 0,
     .eager fixedDeclining,
     "Fixed-declining-balance depreciation for period, with the rate rounded to three decimals " ++
       "and month (default 12) months in the first year. #NUM! when period exceeds 1,000,000."⟩,
   ⟨"DDB", .financial, 4, some 5,
     [scalar "cost", scalar "salvage", scalar "life", scalar "period", scalar "factor"], 0,
     .eager doubleDeclining,
     "Double-declining-balance depreciation for period (factor defaults to 2), never " ++
       "depreciating below salvage. #NUM! when period exceeds 1,000,000."⟩,
   ⟨"SLN", .financial, 3, some 3,
     [scalar "cost", scalar "salvage", scalar "life"], 0,
     .eager straightLine,
     "Straight-line depreciation per period: (cost - salvage) / life. #DIV/0! when life is 0."⟩,
   ⟨"SYD", .financial, 4, some 4,
     [scalar "cost", scalar "salvage", scalar "life", scalar "per"], 0,
     .eager sumOfYears,
     "Sum-of-years'-digits depreciation for period per. #NUM! unless 0 < per <= life."⟩,
   ⟨"EFFECT", .financial, 2, some 2,
     [scalar "nominal_rate", scalar "npery"], 0,
     .eager effectiveRate,
     "Effective annual rate from a nominal rate compounded npery times a year. #NUM! when " ++
       "nominal_rate <= 0 or npery < 1."⟩,
   ⟨"NOMINAL", .financial, 2, some 2,
     [scalar "effect_rate", scalar "npery"], 0,
     .eager nominalRate,
     "Nominal annual rate compounded npery times a year from an effective rate. #NUM! when " ++
       "effect_rate <= 0 or npery < 1."⟩]

end Spreadsheet.Function
