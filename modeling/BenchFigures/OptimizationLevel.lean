/-!
# Optimization levels

The compiler settings a benchmark was built with. A level names the directory of
its results and, with a dash, the compiler flag that labels it in charts and
tables.
-/

namespace BenchFigures

/-- A compiler optimization level. -/
inductive OptimizationLevel where
  | O0
  | O1
  | O2
  | O3
  | Os
  | Ofast
  deriving DecidableEq, Repr

namespace OptimizationLevel

/-- Every level. -/
def all : List OptimizationLevel := [.O0, .O1, .O2, .O3, .Os, .Ofast]

/-- The name in configurations and of the directory that holds the results. -/
def name : OptimizationLevel → String
  | .O0 => "O0"
  | .O1 => "O1"
  | .O2 => "O2"
  | .O3 => "O3"
  | .Os => "Os"
  | .Ofast => "Ofast"

/-- The compiler flag. -/
def flag (level : OptimizationLevel) : String := "-" ++ level.name

/-- The level of an exact name. -/
def ofName? (name : String) : Option OptimizationLevel := all.find? (·.name = name)

/-- Reading a name gives back its level, so different levels have different names. -/
theorem ofName?_name (level : OptimizationLevel) : ofName? level.name = some level := by
  cases level <;> decide

end OptimizationLevel

end BenchFigures
