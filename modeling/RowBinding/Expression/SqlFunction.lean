import RowBinding.Value.Text

/-!
# SQL marker functions

Functions that mean something only to the translator of a query. Called
directly they yield the zero value of their type, and an interceptor recognizes
their calls by the declaring type and the name.
-/

namespace RowBinding

/-- A call of a method: its receiver, if it has one, and its arguments. -/
structure CallSite where
  receiver : Option Expr
  method : MethodRef
  arguments : List Expr

/-- The call that an expression is, if it is one. -/
def Expr.callSite? : Expr → Option CallSite
  | .call receiver method arguments => some ⟨some receiver, method, arguments⟩
  | .staticCall method arguments => some ⟨none, method, arguments⟩
  | _ => none

/-- A function that marks a part of a query. -/
inductive SqlFunction
  | len
  | length
  | operation
  | max
  | min
  | count
  | sum
  | avg
  | abs
  | round
  | dateDiff
  | timestampDiff
  | year
  | month
  | day
  | isNull
  | ifNull
  | nvl
  | rowNumber
  | openCase
  | openCaseWhen
  | whenEqual
  | thenResult
  | elseResult
  | endCase
  deriving DecidableEq

namespace SqlFunction

/-- Every marker function. -/
def all : List SqlFunction :=
  [.len, .length, .operation, .max, .min, .count, .sum, .avg, .abs, .round, .dateDiff,
    .timestampDiff, .year, .month, .day, .isNull, .ifNull, .nvl, .rowNumber, .openCase,
    .openCaseWhen, .whenEqual, .thenResult, .elseResult, .endCase]

/-- The name of a marker function. -/
def name : SqlFunction → String
  | .len => "Len"
  | .length => "Length"
  | .operation => "Operation"
  | .max => "Max"
  | .min => "Min"
  | .count => "Count"
  | .sum => "Sum"
  | .avg => "Avg"
  | .abs => "Abs"
  | .round => "Round"
  | .dateDiff => "DateDiff"
  | .timestampDiff => "TimestampDiff"
  | .year => "Year"
  | .month => "Month"
  | .day => "Day"
  | .isNull => "IsNull"
  | .ifNull => "IfNull"
  | .nvl => "Nvl"
  | .rowNumber => "RowNumber"
  | .openCase => "Case"
  | .openCaseWhen => "CaseWhen"
  | .whenEqual => "When"
  | .thenResult => "Then"
  | .elseResult => "Else"
  | .endCase => "End"

/-- The marker function with a given name, in any case of its letters. -/
def ofName? (name : String) : Option SqlFunction :=
  all.find? fun function => Text.equalIgnoringCase function.name name

/-- The wording of a name that is no marker function. -/
def unknownMessage (name : String) : String :=
  "unknown SQL function '" ++ name ++ "'"

/-- Whether the function builds a case expression. -/
def isCaseBuilder : SqlFunction → Bool
  | .openCase | .openCaseWhen | .whenEqual | .thenResult | .elseResult => true
  | _ => false

/-- The type of the function, unless it follows its argument. -/
def fixedType? : SqlFunction → Option StaticType
  | .len | .length | .count | .dateDiff | .timestampDiff | .year | .month | .day
  | .rowNumber => some .int32
  | .operation => some .boolean
  | .round => some .decimal
  | .openCase | .openCaseWhen | .whenEqual | .thenResult | .elseResult => some .record
  | .max | .min | .sum | .avg | .abs | .isNull | .ifNull | .nvl | .endCase => none

/-- The type of the function for a type of its argument. -/
def returnType (function : SqlFunction) (generic : StaticType) : StaticType :=
  function.fixedType?.getD generic

/-- The type that declares the marker functions. -/
def declaringType : String :=
  "SqlFunc"

/-- The method of a marker function for a type of its argument. -/
def method (function : SqlFunction) (generic : StaticType) : MethodRef :=
  ⟨function.name, declaringType, function.returnType generic, .zero⟩

/-- A call typed after its first argument. -/
def call (function : SqlFunction) (arguments : List Expr) : Expr :=
  let generic := (arguments.head?.map Expr.staticType).getD .object
  .staticCall (function.method generic) arguments

/-- A call with a given type of its argument. -/
def typedCall
    (function : SqlFunction)
    (generic : StaticType)
    (arguments : List Expr) : Expr :=
  .staticCall (function.method generic) arguments

/-- The marker function that a call is of. -/
def recognize? (site : CallSite) : Option SqlFunction :=
  if site.receiver.isNone && site.method.declaringType == declaringType then
    ofName? site.method.name
  else
    none

/-- What a direct call of the function yields. -/
def zeroResult (function : SqlFunction) (generic : StaticType) : Value :=
  (function.returnType generic).zeroValue

end SqlFunction
end RowBinding
