import RowBinding.Binding.Binder
import RowBinding.Binding.Cache
import RowBinding.Binding.Cache.Concurrent
import RowBinding.Binding.Codec
import RowBinding.Binding.Compiled
import RowBinding.Binding.Compiler
import RowBinding.Binding.Config
import RowBinding.Binding.ConversionRules
import RowBinding.Binding.Error
import RowBinding.Binding.Fingerprint
import RowBinding.Binding.RowInterpreter
import RowBinding.Calendar
import RowBinding.Conversion
import RowBinding.DataType
import RowBinding.DateTime
import RowBinding.DateTime.Fields
import RowBinding.DateTime.Layout
import RowBinding.Expression.Arithmetic
import RowBinding.Expression.CallTrace
import RowBinding.Expression.Error
import RowBinding.Expression.Evaluator
import RowBinding.Expression.Host
import RowBinding.Expression.Interceptor
import RowBinding.Expression.Meaning
import RowBinding.Expression.Operator
import RowBinding.Expression.Reference
import RowBinding.Expression.SqlFunction
import RowBinding.Expression.StaticType
import RowBinding.Fields
import RowBinding.Guid
import RowBinding.Json
import RowBinding.Json.Form
import RowBinding.Json.Printing
import RowBinding.Json.Reading
import RowBinding.Number.Decimal
import RowBinding.Number.Decimal.Reading
import RowBinding.Number.Decimal.ToFloat
import RowBinding.Number.Floating
import RowBinding.Number.FloatingText
import RowBinding.Number.Integer
import RowBinding.Number.LongDivision
import RowBinding.Number.Power
import RowBinding.Number.Rounding
import RowBinding.Number.Shortest
import RowBinding.Row.Materializer
import RowBinding.Row.RowMap
import RowBinding.Row.Schema
import RowBinding.Row.Source
import RowBinding.Target.BoundType
import RowBinding.Target.Descriptor
import RowBinding.Target.MemberType
import RowBinding.Text.Blank
import RowBinding.Text.Digits
import RowBinding.Text.Inspected
import RowBinding.Text.Printable
import RowBinding.Value
import RowBinding.Value.Equality
import RowBinding.Value.Text
import RowBinding.Value.ToJson
import RowBinding.Proofs.Binding.Cache.Agreement
import RowBinding.Proofs.Binding.Cache.Contributions
import RowBinding.Proofs.Binding.Cache.Memo
import RowBinding.Proofs.Binding.ColumnOrder
import RowBinding.Proofs.Binding.ConversionTable
import RowBinding.Proofs.Binding.DecimalColumns
import RowBinding.Proofs.Binding.DeliveredTypes
import RowBinding.Proofs.Binding.FloatColumns
import RowBinding.Proofs.Binding.FloatMembers
import RowBinding.Proofs.Binding.JsonMembers
import RowBinding.Proofs.Binding.NumbersAsTruth
import RowBinding.Proofs.Binding.ObjectSlots
import RowBinding.Proofs.Binding.PlaceholderNames
import RowBinding.Proofs.Binding.Refusals
import RowBinding.Proofs.Binding.ResultTypes
import RowBinding.Proofs.Binding.SharedCompilation
import RowBinding.Proofs.Binding.WellFormedBinders
import RowBinding.Proofs.CarriedByText
import RowBinding.Proofs.Expression.AccessChains
import RowBinding.Proofs.Expression.ArraySides
import RowBinding.Proofs.Expression.CallTraces
import RowBinding.Proofs.Expression.Comparison
import RowBinding.Proofs.Expression.Equality
import RowBinding.Proofs.Expression.FloatEquality
import RowBinding.Proofs.Expression.FrameOrder
import RowBinding.Proofs.Expression.IntegerArithmetic
import RowBinding.Proofs.Expression.StaticTypes
import RowBinding.Proofs.IntegerConversion
import RowBinding.Proofs.Row.ForwardReading
import RowBinding.Proofs.Row.RepeatedNames
import RowBinding.Proofs.Row.ResultSets
import RowBinding.Proofs.Row.Shapes
