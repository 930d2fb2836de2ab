import RowBinding.Expression.SqlFunction

/-!
# Call interception

An interceptor sees every method call twice: before the method runs, when it
may give the result in its place, and afterwards, when it may replace the
result.
-/

namespace RowBinding

/-- Functions that are asked around every method call. -/
structure Interceptor where
  /-- The result in place of a call, or nothing to let the method run. -/
  before : Option Value → CallSite → Option Value := fun _ _ => none
  /-- The result that takes the place of a result. -/
  after : Option Value → Value → CallSite → Value := fun _ result _ => result

/-- Two optional hooks that make an interceptor. -/
structure CallHooks where
  before : Option (Option Value → CallSite → Option Value) := none
  after : Option (Option Value → Value → CallSite → Value) := none

/-- The interceptor of some hooks; a hook that is not set changes nothing. -/
def CallHooks.interceptor (hooks : CallHooks) : Interceptor where
  before receiver site := hooks.before.bind fun hook => hook receiver site
  after receiver result site :=
    match hooks.after with
    | some hook => hook receiver result site
    | none => result

end RowBinding
