import SqlBridge.Operation.Lowering

/-!
# Statistics of groups

Deviations of a column, and regressions of one column on another, which are given as a pair or as two
operands. Nulls are left out of a group, so that none makes the whole null.
-/

namespace SqlBridge

/-- A statistic of a group. -/
inductive StatisticsOperation where
  /-- Of one column of numbers. -/
  | single (function : String)
  /-- Of two columns. -/
  | paired (function : String) (result : Scalar)
deriving DecidableEq, Repr

namespace StatisticsOperation

/-- The operations by name. -/
def table : List (String × StatisticsOperation) :=
  [("StandardDeviationSample", .single "stddev_samp"),
   ("StandardDeviationPopulation", .single "stddev_pop"),
   ("VarianceSample", .single "var_samp"),
   ("VariancePopulation", .single "var_pop"),
   ("Correlation", .paired "corr" .float64),
   ("CovariancePopulation", .paired "covar_pop" .float64),
   ("CovarianceSample", .paired "covar_samp" .float64),
   ("RegrAverageX", .paired "regr_avgx" .float64),
   ("RegrAverageY", .paired "regr_avgy" .float64),
   ("RegrCount", .paired "regr_count" .int64),
   ("RegrIntercept", .paired "regr_intercept" .float64),
   ("RegrR2", .paired "regr_r2" .float64),
   ("RegrSlope", .paired "regr_slope" .float64),
   ("RegrSXX", .paired "regr_sxx" .float64),
   ("RegrSXY", .paired "regr_sxy" .float64),
   ("RegrSYY", .paired "regr_syy" .float64)]

variable (r : Registry)

/-- A statistic of two columns. -/
def ofPair (name : String) (result : Scalar) (pair : Expr × Expr) : Except Fault Expr :=
  Expr.aggregate r name [pair.1, pair.2] [false, false] (.scalar result) none

/-- The SQL of an operation. -/
def build (op : StatisticsOperation) (args : List Expr) : Lowered :=
  match op, args with
  | .single name, [values] =>
    if values.hostType.isNumeric then
      .built (Expr.aggregate r name [values] [false] (.scalar .float64) none)
    else .declined
  | .paired name result, [e] =>
    match Expr.pair? r e with
    | some pair => .built (ofPair r name result pair)
    | none => .declined
  | .paired name result, [y, x] => .built (ofPair r name result (y, x))
  | _, _ => .declined

end StatisticsOperation

/-- The lowering of statistics. -/
def Lowering.statistics (r : Registry) : Lowering :=
  .ofTable "statistics-aggregate" [.aggregate] (fun _ => true) StatisticsOperation.table
    fun op _ args => StatisticsOperation.build r op args

end SqlBridge
