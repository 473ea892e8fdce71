import TypedQuery.Facet.Kind
import TypedQuery.Facet.TextMembers

/-!
The members of each kind.
-/
set_option autoImplicit false

namespace TypedQuery

namespace Member

/-- The members of kinds, in their order. -/
def kindMembers : List Member :=
  .maker :: slotsAnd [
    "__repr__", "__call__", "__getattribute__", "__setattr__", "__delattr__", "__init__",
    "__or__", "__ror__"] [
  .ofMethod .method "mro" "($self, /)" ["Return a type's method resolution order."],
  .ofMethod .method "__subclasses__" "($self, /)" [
    "Return a list of immediate subclasses."],
  .ofMethod .kindMethod "__prepare__" "" [
    "__prepare__() -> dict",
    "used to create the namespace for the class statement"],
  .ofMethod .method "__instancecheck__" "($self, instance, /)" [
    "Check if an object is an instance."],
  .ofMethod .method "__subclasscheck__" "($self, subclass, /)" [
    "Check if a class is a subclass."],
  .ofMethod .method "__dir__" "($self, /)" [
    "Specialized __dir__ implementation for types."],
  .ofMethod .method "__sizeof__" "($self, /)" [
    "Return memory consumption of the type object."],
  .ofValue .stored "__basicsize__" [],
  .ofValue .stored "__itemsize__" [],
  .ofValue .stored "__flags__" [],
  .ofValue .stored "__weakrefoffset__" [],
  .ofValue .stored "__base__" [],
  .ofValue .stored "__dictoffset__" [],
  .ofValue .stored "__mro__" [],
  .ofValue .computed "__name__" [],
  .ofValue .computed "__qualname__" [],
  .ofValue .computed "__bases__" [],
  .ofValue .computed "__module__" [],
  .ofValue .computed "__abstractmethods__" [],
  .ofValue .computed "__dict__" [],
  .ofValue .computed "__doc__" [],
  .ofValue .computed "__text_signature__" [],
  .ofValue .computed "__annotations__" []]

/-- The members of sequences, in their order. -/
def sequenceMembers : List Member :=
  .maker :: slotsAnd [
    "__repr__", "__hash__", "__getattribute__", "__lt__", "__le__", "__eq__", "__ne__",
    "__gt__", "__ge__", "__iter__", "__len__", "__getitem__", "__add__", "__mul__",
    "__rmul__", "__contains__"] [
  .ofMethod .method "__getnewargs__" "($self, /)" [],
  .ofMethod .method "index" "($self, value, start=0, stop=sys.maxsize, /)" [
    "Return first index of value.",
    "",
    "Raises ValueError if the value is not present."],
  .ofMethod .method "count" "($self, value, /)" ["Return number of occurrences of value."],
  .ofMethod .kindMethod "__class_getitem__" "" ["See PEP 585"],
  .ofValue .said "__doc__" [
    "Built-in immutable sequence.",
    "",
    "If no argument is given, the constructor returns an empty tuple.",
    "If iterable is specified the tuple is initialized from iterable's items.",
    "",
    "If the argument is a tuple, the return value is the same object."]]

/-- The members of nothing, in their order. -/
def nothingMembers : List Member :=
  .maker :: slotsAnd [
    "__repr__", "__bool__"] [
  .ofValue .said "__doc__" []]

/-- The members of all things, in their order. -/
def thingMembers : List Member :=
  .maker :: slotsAnd [
    "__repr__", "__hash__", "__str__", "__getattribute__", "__setattr__", "__delattr__",
    "__lt__", "__le__", "__eq__", "__ne__", "__gt__", "__ge__", "__init__"] [
  .ofMethod .method "__reduce_ex__" "($self, protocol, /)" ["Helper for pickle."],
  .ofMethod .method "__reduce__" "($self, /)" ["Helper for pickle."],
  .ofMethod .method "__getstate__" "($self, /)" ["Helper for pickle."],
  .ofMethod .kindMethod "__subclasshook__" "" [
    "Abstract classes can override this to customize issubclass().",
    "",
    "This is invoked early on by abc.ABCMeta.__subclasscheck__().",
    "It should return True, False or NotImplemented.  If it returns",
    "NotImplemented, the normal algorithm is used.  Otherwise, it",
    "overrides the normal algorithm (and the outcome is cached).",
    ""],
  .ofMethod .kindMethod "__init_subclass__" "" [
    "This method is called when a class is subclassed.",
    "",
    "The default implementation does nothing. It may be",
    "overridden to extend subclasses.",
    ""],
  .ofMethod .method "__format__" "($self, format_spec, /)" ["Default object formatter."],
  .ofMethod .method "__sizeof__" "($self, /)" [
    "Size of object in memory, in bytes."],
  .ofMethod .method "__dir__" "($self, /)" ["Default dir() implementation."],
  .ofValue .computed "__class__" ["the object's class"],
  .ofValue .said "__doc__" [
    "The base class of the class hierarchy.",
    "",
    "When called, it accepts no arguments and returns a new featureless",
    "instance that has no instance attributes and cannot be given any.",
    ""]]

/-- The members of integers, in their order. -/
def integerMembers : List Member :=
  .maker :: slotsAnd [
    "__repr__", "__hash__", "__getattribute__", "__lt__", "__le__", "__eq__", "__ne__",
    "__gt__", "__ge__", "__add__", "__radd__", "__sub__", "__rsub__", "__mul__", "__rmul__",
    "__mod__", "__rmod__", "__divmod__", "__rdivmod__", "__pow__", "__rpow__", "__neg__",
    "__pos__", "__abs__", "__bool__", "__invert__", "__lshift__", "__rlshift__", "__rshift__",
    "__rrshift__", "__and__", "__rand__", "__xor__", "__rxor__", "__or__", "__ror__",
    "__int__", "__float__", "__floordiv__", "__rfloordiv__", "__truediv__", "__rtruediv__",
    "__index__"] [
  .ofMethod .method "conjugate" "" [
    "Returns self, the complex conjugate of any int."],
  .ofMethod .method "bit_length" "($self, /)" [
    "Number of bits necessary to represent self in binary.",
    "",
    ">>> bin(37)",
    "'0b100101'",
    ">>> (37).bit_length()",
    "6"],
  .ofMethod .method "bit_count" "($self, /)" [
    "Number of ones in the binary representation of the absolute value of self.",
    "",
    "Also known as the population count.",
    "",
    ">>> bin(13)",
    "'0b1101'",
    ">>> (13).bit_count()",
    "3"],
  .ofMethod .method "to_bytes" "($self, /, length=1, byteorder='big', *, signed=False)" [
    "Return an array of bytes representing an integer.",
    "",
    "  length",
    "    Length of bytes object to use.  An OverflowError is raised if the",
    "    integer is not representable with the given number of bytes.  Default",
    "    is length 1.",
    "  byteorder",
    "    The byte order used to represent the integer.  If byteorder is 'big',",
    "    the most significant byte is at the beginning of the byte array.  If",
    "    byteorder is 'little', the most significant byte is at the end of the",
    "    byte array.  To request the native byte order of the host system, use",
    "    `sys.byteorder' as the byte order value.  Default is to use 'big'.",
    "  signed",
    "    Determines whether two's complement is used to represent the integer.",
    "    If signed is False and a negative integer is given, an OverflowError",
    "    is raised."],
  .ofMethod .kindMethod "from_bytes" "($type, /, bytes, byteorder='big', *, signed=False)" [
    "Return the integer represented by the given array of bytes.",
    "",
    "  bytes",
    "    Holds the array of bytes to convert.  The argument must either",
    "    support the buffer protocol or be an iterable object producing bytes.",
    "    Bytes and bytearray are examples of built-in objects that support the",
    "    buffer protocol.",
    "  byteorder",
    "    The byte order used to represent the integer.  If byteorder is 'big',",
    "    the most significant byte is at the beginning of the byte array.  If",
    "    byteorder is 'little', the most significant byte is at the end of the",
    "    byte array.  To request the native byte order of the host system, use",
    "    `sys.byteorder' as the byte order value.  Default is to use 'big'.",
    "  signed",
    "    Indicates whether two's complement is used to represent the integer."],
  .ofMethod .method "as_integer_ratio" "($self, /)" [
    "Return integer ratio.",
    "",
    "Return a pair of integers, whose ratio is exactly equal to the original int",
    "and with a positive denominator.",
    "",
    ">>> (10).as_integer_ratio()",
    "(10, 1)",
    ">>> (-10).as_integer_ratio()",
    "(-10, 1)",
    ">>> (0).as_integer_ratio()",
    "(0, 1)"],
  .ofMethod .method "__trunc__" "" [
    "Truncating an Integral returns itself."],
  .ofMethod .method "__floor__" "" [
    "Flooring an Integral returns itself."],
  .ofMethod .method "__ceil__" "" [
    "Ceiling of an Integral returns itself."],
  .ofMethod .method "__round__" "($self, ndigits=<unrepresentable>, /)" [
    "Rounding an Integral returns itself.",
    "",
    "Rounding with an ndigits argument also returns an integer."],
  .ofMethod .method "__getnewargs__" "($self, /)" [],
  .ofMethod .method "__format__" "($self, format_spec, /)" [],
  .ofMethod .method "__sizeof__" "($self, /)" ["Returns size in memory, in bytes."],
  .ofValue .computed "real" ["the real part of a complex number"],
  .ofValue .computed "imag" ["the imaginary part of a complex number"],
  .ofValue .computed "numerator" [
    "the numerator of a rational number in lowest terms"],
  .ofValue .computed "denominator" [
    "the denominator of a rational number in lowest terms"],
  .ofValue .said "__doc__" [
    "int([x]) -> integer",
    "int(x, base=10) -> integer",
    "",
    "Convert a number or string to an integer, or return 0 if no arguments",
    "are given.  If x is a number, return x.__int__().  For floating point",
    "numbers, this truncates towards zero.",
    "",
    "If x is not a number or if base is given, then x must be a string,",
    "bytes, or bytearray instance representing an integer literal in the",
    "given base.  The literal can be preceded by '+' or '-' and be surrounded",
    "by whitespace.  The base defaults to 10.  Valid bases are 0 and 2-36.",
    "Base 0 means to interpret the base from the string as an integer literal.",
    ">>> int('0b100', base=0)",
    "4"]]

/-- The members of overviews of members, in their order. -/
def overviewMembers : List Member :=
  .maker :: slotsAnd [
    "__repr__", "__str__", "__getattribute__", "__lt__", "__le__", "__eq__", "__ne__",
    "__gt__", "__ge__", "__iter__", "__or__", "__ror__", "__ior__", "__len__", "__getitem__",
    "__contains__"] [
  .ofMethod .method "get" "" [
    "D.get(k[,d]) -> D[k] if k in D, else d.  d defaults to None."],
  .ofMethod .method "keys" "" [
    "D.keys() -> a set-like object providing a view on D's keys"],
  .ofMethod .method "values" "" [
    "D.values() -> an object providing a view on D's values"],
  .ofMethod .method "items" "" [
    "D.items() -> a set-like object providing a view on D's items"],
  .ofMethod .method "copy" "" ["D.copy() -> a shallow copy of D"],
  .ofMethod .kindMethod "__class_getitem__" "" ["See PEP 585"],
  .ofMethod .method "__reversed__" "" [
    "D.__reversed__() -> reverse iterator"],
  .ofValue .said "__doc__" [],
  .ofValue .said "__hash__" []]

/-- The members of methods of some thing, in their order. -/
def boundMethodMembers : List Member :=
  slotsAnd [
    "__repr__", "__hash__", "__call__", "__getattribute__", "__lt__", "__le__", "__eq__",
    "__ne__", "__gt__", "__ge__"] [
  .ofMethod .method "__reduce__" "" [],
  .ofValue .stored "__module__" [],
  .ofValue .computed "__doc__" [],
  .ofValue .computed "__name__" [],
  .ofValue .computed "__qualname__" [],
  .ofValue .computed "__self__" [],
  .ofValue .computed "__text_signature__" []]

/-- The members of slots of some thing, in their order. -/
def boundSlotMembers : List Member :=
  slotsAnd [
    "__repr__", "__hash__", "__call__", "__getattribute__", "__lt__", "__le__", "__eq__",
    "__ne__", "__gt__", "__ge__"] [
  .ofMethod .method "__reduce__" "" [],
  .ofValue .stored "__self__" [],
  .ofValue .computed "__objclass__" [],
  .ofValue .computed "__name__" [],
  .ofValue .computed "__qualname__" [],
  .ofValue .computed "__doc__" [],
  .ofValue .computed "__text_signature__" []]

/-- The members of slots, in their order. -/
def slotMembers : List Member :=
  slotsAnd [
    "__repr__", "__call__", "__getattribute__", "__get__"] [
  .ofMethod .method "__reduce__" "" [],
  .ofValue .stored "__objclass__" [],
  .ofValue .stored "__name__" [],
  .ofValue .computed "__doc__" [],
  .ofValue .computed "__qualname__" [],
  .ofValue .computed "__text_signature__" []]

/-- The members of methods, in their order. -/
def methodMembers : List Member :=
  slotsAnd [
    "__repr__", "__call__", "__getattribute__", "__get__"] [
  .ofMethod .method "__reduce__" "" [],
  .ofValue .stored "__objclass__" [],
  .ofValue .stored "__name__" [],
  .ofValue .computed "__doc__" [],
  .ofValue .computed "__qualname__" [],
  .ofValue .computed "__text_signature__" []]

/-- The members of methods of kinds, in their order. -/
def kindMethodMembers : List Member :=
  slotsAnd [
    "__repr__", "__call__", "__getattribute__", "__get__"] [
  .ofValue .stored "__objclass__" [],
  .ofValue .stored "__name__" [],
  .ofValue .computed "__doc__" [],
  .ofValue .computed "__qualname__" [],
  .ofValue .computed "__text_signature__" []]

/-- The members of computed values, in their order. -/
def computedMembers : List Member :=
  slotsAnd [
    "__repr__", "__getattribute__", "__get__", "__set__", "__delete__"] [
  .ofValue .stored "__objclass__" [],
  .ofValue .stored "__name__" [],
  .ofValue .computed "__doc__" [],
  .ofValue .computed "__qualname__" []]

/-- The members of stored values, in their order. -/
def storedMembers : List Member :=
  slotsAnd [
    "__repr__", "__getattribute__", "__get__", "__set__", "__delete__"] [
  .ofMethod .method "__reduce__" "" [],
  .ofValue .stored "__objclass__" [],
  .ofValue .stored "__name__" [],
  .ofValue .computed "__doc__" [],
  .ofValue .computed "__qualname__" []]

/-- The members of narrowed kinds, in their order. -/
def narrowedMembers : List Member :=
  .maker :: slotsAnd [
    "__repr__", "__hash__", "__call__", "__getattribute__", "__lt__", "__le__", "__eq__",
    "__ne__", "__gt__", "__ge__", "__iter__", "__or__", "__ror__", "__getitem__"] [
  .ofMethod .method "__mro_entries__" "" [],
  .ofMethod .method "__instancecheck__" "" [],
  .ofMethod .method "__subclasscheck__" "" [],
  .ofMethod .method "__reduce__" "" [],
  .ofMethod .method "__dir__" "" [],
  .ofValue .stored "__origin__" [],
  .ofValue .stored "__args__" [],
  .ofValue .stored "__unpacked__" [],
  .ofValue .computed "__parameters__" ["Type variables in the GenericAlias."],
  .ofValue .computed "__typing_unpacked_tuple_args__" [],
  .ofValue .said "__doc__" [
    "Represent a PEP 585 generic type",
    "",
    "E.g. for t = list[int], t.__origin__ is list and t.__args__ is (int,)."]]

/-- The members of shared functions, in their order. -/
def sharedMembers : List Member :=
  .maker :: slotsAnd [
    "__repr__", "__call__", "__get__", "__init__"] [
  .ofValue .stored "__func__" [],
  .ofValue .stored "__wrapped__" [],
  .ofValue .computed "__isabstractmethod__" [],
  .ofValue .computed "__dict__" [],
  .ofValue .said "__doc__" []]

/-- The members of truth values, in their order. -/
def truthMembers : List Member :=
  .maker :: slotsAnd [
    "__repr__", "__and__", "__rand__", "__xor__", "__rxor__", "__or__", "__ror__"] [
  .ofValue .said "__doc__" [
    "bool(x) -> bool",
    "",
    "Returns True when the argument x is true, False otherwise.",
    "The builtins True and False are the only two instances of the class bool.",
    "The class bool is a subclass of the class int, and cannot be subclassed."]]

end Member

namespace Kind

/-- The members of a kind, without those of the kinds above it. -/
def members : Kind → List Member
  | .text => Member.textMembers
  | .kind => Member.kindMembers
  | .sequence => Member.sequenceMembers
  | .nothing => Member.nothingMembers
  | .thing => Member.thingMembers
  | .integer => Member.integerMembers
  | .overview => Member.overviewMembers
  | .boundMethod => Member.boundMethodMembers
  | .boundSlot => Member.boundSlotMembers
  | .slot => Member.slotMembers
  | .method => Member.methodMembers
  | .kindMethod => Member.kindMethodMembers
  | .computed => Member.computedMembers
  | .stored => Member.storedMembers
  | .narrowed => Member.narrowedMembers
  | .shared => Member.sharedMembers
  | .truth => Member.truthMembers

/-- The member with a name of a kind, or of the nearest kind above it that has one, and the kind
that it belongs to. -/
def member? (k : Kind) (name : String) : Option (Kind × Member) :=
  k.lineage.findSome? fun owner =>
    (owner.members.find? fun m => m.name == name).map fun m => (owner, m)

end Kind

end TypedQuery
