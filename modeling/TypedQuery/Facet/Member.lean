/-!
Members of kinds: what can be looked up of the things of a kind, or of the kind itself. Each has a
name, and perhaps something is said about it and about how it is called. A slot is a basic
operation; what is said about it does not depend on the kind.
-/
set_option autoImplicit false

namespace TypedQuery

inductive Form
  | slot
  | method
  | kindMethod
  /-- The function that makes things of the kind. -/
  | maker
  | shared
  | computed
  | stored
  /-- Not more than what is said about the kind. -/
  | said
  deriving DecidableEq, Repr

structure Member where
  form : Form
  name : String
  signature : Option String := none
  description : Option String := none
  deriving DecidableEq, Repr

namespace Member

/-- Lines of a description; without a line there is none. -/
def described (lines : List String) : Option String :=
  if lines.isEmpty then none else some (String.intercalate "\n" lines)

/-- A method or a function; an empty signature is none. -/
def ofMethod (form : Form) (name signature : String) (description : List String) : Member :=
  ⟨form, name, if signature = "" then none else some signature, described description⟩

/-- A value, or what is said in place of one. -/
def ofValue (form : Form) (name : String) (description : List String) : Member :=
  { form, name, description := described description }

def maker : Member :=
  .ofMethod .maker "__new__" "($type, *args, **kwargs)"
    ["Create and return a new object.  See help(type) for accurate signature."]

/-- How the slot with a name is called, and what is said about it. -/
def aboutSlot : String → String × String
  | "__repr__" => ("($self, /)", "Return repr(self).")
  | "__hash__" => ("($self, /)", "Return hash(self).")
  | "__str__" => ("($self, /)", "Return str(self).")
  | "__getattribute__" => ("($self, name, /)", "Return getattr(self, name).")
  | "__lt__" => ("($self, value, /)", "Return self<value.")
  | "__le__" => ("($self, value, /)", "Return self<=value.")
  | "__eq__" => ("($self, value, /)", "Return self==value.")
  | "__ne__" => ("($self, value, /)", "Return self!=value.")
  | "__gt__" => ("($self, value, /)", "Return self>value.")
  | "__ge__" => ("($self, value, /)", "Return self>=value.")
  | "__iter__" => ("($self, /)", "Implement iter(self).")
  | "__mod__" => ("($self, value, /)", "Return self%value.")
  | "__rmod__" => ("($self, value, /)", "Return value%self.")
  | "__len__" => ("($self, /)", "Return len(self).")
  | "__getitem__" => ("($self, key, /)", "Return self[key].")
  | "__add__" => ("($self, value, /)", "Return self+value.")
  | "__mul__" => ("($self, value, /)", "Return self*value.")
  | "__rmul__" => ("($self, value, /)", "Return value*self.")
  | "__contains__" => ("($self, key, /)", "Return key in self.")
  | "__call__" => ("($self, /, *args, **kwargs)", "Call self as a function.")
  | "__setattr__" => ("($self, name, value, /)", "Implement setattr(self, name, value).")
  | "__delattr__" => ("($self, name, /)", "Implement delattr(self, name).")
  | "__init__" =>
    ("($self, /, *args, **kwargs)",
      "Initialize self.  See help(type(self)) for accurate signature.")
  | "__or__" => ("($self, value, /)", "Return self|value.")
  | "__ror__" => ("($self, value, /)", "Return value|self.")
  | "__bool__" => ("($self, /)", "True if self else False")
  | "__radd__" => ("($self, value, /)", "Return value+self.")
  | "__sub__" => ("($self, value, /)", "Return self-value.")
  | "__rsub__" => ("($self, value, /)", "Return value-self.")
  | "__divmod__" => ("($self, value, /)", "Return divmod(self, value).")
  | "__rdivmod__" => ("($self, value, /)", "Return divmod(value, self).")
  | "__pow__" => ("($self, value, mod=None, /)", "Return pow(self, value, mod).")
  | "__rpow__" => ("($self, value, mod=None, /)", "Return pow(value, self, mod).")
  | "__neg__" => ("($self, /)", "-self")
  | "__pos__" => ("($self, /)", "+self")
  | "__abs__" => ("($self, /)", "abs(self)")
  | "__invert__" => ("($self, /)", "~self")
  | "__lshift__" => ("($self, value, /)", "Return self<<value.")
  | "__rlshift__" => ("($self, value, /)", "Return value<<self.")
  | "__rshift__" => ("($self, value, /)", "Return self>>value.")
  | "__rrshift__" => ("($self, value, /)", "Return value>>self.")
  | "__and__" => ("($self, value, /)", "Return self&value.")
  | "__rand__" => ("($self, value, /)", "Return value&self.")
  | "__xor__" => ("($self, value, /)", "Return self^value.")
  | "__rxor__" => ("($self, value, /)", "Return value^self.")
  | "__int__" => ("($self, /)", "int(self)")
  | "__float__" => ("($self, /)", "float(self)")
  | "__floordiv__" => ("($self, value, /)", "Return self//value.")
  | "__rfloordiv__" => ("($self, value, /)", "Return value//self.")
  | "__truediv__" => ("($self, value, /)", "Return self/value.")
  | "__rtruediv__" => ("($self, value, /)", "Return value/self.")
  | "__index__" =>
    ("($self, /)",
      "Return self converted to an integer, if self is suitable for use as an index into a list.")
  | "__ior__" => ("($self, value, /)", "Return self|=value.")
  | "__get__" =>
    ("($self, instance, owner=None, /)",
      "Return an attribute of instance, which is of type owner.")
  | "__set__" => ("($self, instance, value, /)", "Set an attribute of instance to value.")
  | "__delete__" => ("($self, instance, /)", "Delete an attribute of instance.")
  | "__setitem__" => ("($self, key, value, /)", "Set self[key] to value.")
  | "__delitem__" => ("($self, key, /)", "Delete self[key].")
  | _ => ("($self, /)", "")

def ofSlot (name : String) : Member :=
  let (signature, description) := aboutSlot name
  ⟨.slot, name, some signature, some description⟩

/-- The slots with some names, and then other members. -/
def slotsAnd (names : List String) (others : List Member) : List Member :=
  names.map ofSlot ++ others

end Member

end TypedQuery
