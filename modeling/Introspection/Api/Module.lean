import Introspection.Api.Signature

/-!
# The interface of a compiled extension

What is recovered from the metadata of an extension: modules with their submodules, classes and
functions, each kind of member in declaration order.

## Main definitions

* `Api.Function`, `Api.Class`, `Api.Module`
-/

namespace Introspection.Api

/-- A function with its parameters in calling order. -/
structure Function where
  name : String
  parameters : List Parameter := []
deriving DecidableEq, Inhabited, Repr

/-- A class. -/
structure Class where
  name : String
deriving DecidableEq, Inhabited, Repr

/-- A module with its members. -/
structure Module where
  name : String
  modules : List Module := []
  classes : List Class := []
  functions : List Function := []
deriving Inhabited, Repr

/-- A member of a module. -/
inductive Member where
  | module (value : Module)
  | class (value : Class)
  | function (value : Function)
deriving Inhabited, Repr

namespace Member

/-- The module that a member is. -/
def asModule? : Member → Option Module
  | .module value => some value
  | _ => none

/-- The class that a member is. -/
def asClass? : Member → Option Class
  | .class value => some value
  | _ => none

/-- The function that a member is. -/
def asFunction? : Member → Option Function
  | .function value => some value
  | _ => none

end Member

/-- The module of a name and its members, each kind in the order of the members. -/
def Module.ofMembers (name : String) (members : List Member) : Module where
  name := name
  modules := members.filterMap Member.asModule?
  classes := members.filterMap Member.asClass?
  functions := members.filterMap Member.asFunction?

end Introspection.Api
