import Voicemail.Json.Value

/-!
# Kinds of what a template reaches

A field of a template starts at a parameter and may go on to members of what it has reached: a
part of a number, the type of a value, what that type says about itself. A `Kind` is the type of
something that can be reached so, and `Kind.info` is the table of what each kind knows about
itself and which members it holds in which role. Kinds form a hierarchy below `object`; a member
is looked for in a kind and then in those above it (`Kind.find?`).
-/

namespace Voicemail.Template

/-- The kinds of what a template can reach. -/
inductive Kind where
  | object
  | type
  | int
  | bool
  | float
  | text
  | list
  | mapping
  | nothing
  | tuple
  /-- A method taken from something it works on. -/
  | function
  /-- An operator taken from something it works on. -/
  | wrapper
  /-- A method as its kind holds it. -/
  | method
  /-- An operator as its kind holds it. -/
  | slot
  /-- A computed member as its kind holds it. -/
  | computed
  /-- A method of a kind itself. -/
  | typeMethod
  /-- A stored member as its kind holds it. -/
  | stored
  deriving DecidableEq, Repr

/-- How a kind holds a member. -/
inductive Role where
  | slot
  | method
  | typeMethod
  /-- A function that works on nothing in particular. -/
  | function
  | computed
  | stored
  /-- The kind withholds the member that a kind above it has. -/
  | absent
  /-- The description of the kind. -/
  | description
  deriving DecidableEq, Repr

/-- What a kind knows about itself and which members it holds. -/
structure KindInfo where
  name : String
  doc : Option String := none
  basicSize : Nat
  itemSize : Nat := 0
  dictOffset : Nat := 0
  weakOffset : Nat := 0
  flags : Nat
  signature : Option String := none
  slots : List String := []
  methods : List String := []
  typeMethods : List String := []
  functions : List String := []
  computed : List String := []
  stored : List String := []
  absent : List String := []

/-- The role in which a kind holds a member, if it does. -/
def KindInfo.role? (i : KindInfo) (name : String) : Option Role :=
  if i.computed.contains name then some .computed
  else if i.stored.contains name then some .stored
  else if name = "__doc__" then some .description
  else if i.methods.contains name then some .method
  else if i.slots.contains name then some .slot
  else if i.typeMethods.contains name then some .typeMethod
  else if i.functions.contains name then some .function
  else if i.absent.contains name then some .absent
  else none

namespace Kind

/-- Names with blanks between them. -/
def words (s : String) : List String := s.splitOn " "

/-- The table of kinds. -/
def info : Kind → KindInfo
  | .object => {
      name := "object"
      doc := some <|
        "The base class of the class hierarchy.\n\nWhen called, it accepts no arguments and " ++
        "returns a new featureless\ninstance that has no instance attributes and cannot be " ++
        "given any.\n"
      basicSize := 16
      flags := 529664
      signature := some "()"
      slots := words <|
        "__repr__ __hash__ __str__ __getattribute__ __setattr__ __delattr__ __lt__ __le__ " ++
        "__eq__ __ne__ __gt__ __ge__ __init__"
      methods := words "__reduce_ex__ __reduce__ __getstate__ __format__ __sizeof__ __dir__"
      typeMethods := words "__subclasshook__ __init_subclass__"
      functions := words "__new__"
      computed := words "__class__"
    }
  | .type => {
      name := "type"
      doc := some
        "type(object) -> the object's type\ntype(name, bases, dict, **kwds) -> a new type"
      basicSize := 904
      itemSize := 40
      dictOffset := 264
      weakOffset := 368
      flags := 2148031744
      slots := words
        "__repr__ __call__ __getattribute__ __setattr__ __delattr__ __init__ __or__ __ror__"
      methods := words "mro __subclasses__ __instancecheck__ __subclasscheck__ __dir__ __sizeof__"
      typeMethods := words "__prepare__"
      functions := words "__new__"
      computed := words <|
        "__name__ __qualname__ __bases__ __module__ __abstractmethods__ __dict__ __doc__ " ++
        "__text_signature__ __annotations__"
      stored := words
        "__basicsize__ __itemsize__ __flags__ __weakrefoffset__ __base__ __dictoffset__ __mro__"
    }
  | .int => {
      name := "int"
      doc := some <|
        "int([x]) -> integer\nint(x, base=10) -> integer\n\nConvert a number or string to an " ++
        "integer, or return 0 if no arguments\nare given.  If x is a number, return " ++
        "x.__int__().  For floating point\nnumbers, this truncates towards zero.\n\nIf x is not " ++
        "a number or if base is given, then x must be a string,\nbytes, or bytearray instance " ++
        "representing an integer literal in the\ngiven base.  The literal can be preceded by " ++
        "'+' or '-' and be surrounded\nby whitespace.  The base defaults to 10. " ++
        " Valid bases are 0 " ++
        "and 2-36.\nBase 0 means to interpret the base from the string as an integer literal.\n" ++
        ">>> int('0b100', base=0)\n4"
      basicSize := 24
      itemSize := 4
      flags := 21501184
      slots := words <|
        "__repr__ __hash__ __getattribute__ __lt__ __le__ __eq__ __ne__ __gt__ __ge__ __add__ " ++
        "__radd__ __sub__ __rsub__ __mul__ __rmul__ __mod__ __rmod__ __divmod__ __rdivmod__ " ++
        "__pow__ __rpow__ __neg__ __pos__ __abs__ __bool__ __invert__ __lshift__ __rlshift__ " ++
        "__rshift__ __rrshift__ __and__ __rand__ __xor__ __rxor__ __or__ __ror__ __int__ " ++
        "__float__ __floordiv__ __rfloordiv__ __truediv__ __rtruediv__ __index__"
      methods := words <|
        "conjugate bit_length bit_count to_bytes as_integer_ratio __trunc__ __floor__ __ceil__ " ++
        "__round__ __getnewargs__ __format__ __sizeof__"
      typeMethods := words "from_bytes"
      functions := words "__new__"
      computed := words "real imag numerator denominator"
    }
  | .bool => {
      name := "bool"
      doc := some <|
        "bool(x) -> bool\n\nReturns True when the argument x is true, False otherwise.\nThe " ++
        "builtins True and False are the only two instances of the class bool.\nThe class bool " ++
        "is a subclass of the class int, and cannot be subclassed."
      basicSize := 32
      itemSize := 4
      flags := 21500160
      slots := words "__repr__ __and__ __rand__ __xor__ __rxor__ __or__ __ror__"
      functions := words "__new__"
    }
  | .float => {
      name := "float"
      doc := some
        "Convert a string or number to a floating point number, if possible."
      basicSize := 24
      flags := 4199680
      signature := some "(x=0, /)"
      slots := words <|
        "__repr__ __hash__ __getattribute__ __lt__ __le__ __eq__ __ne__ __gt__ __ge__ __add__ " ++
        "__radd__ __sub__ __rsub__ __mul__ __rmul__ __mod__ __rmod__ __divmod__ __rdivmod__ " ++
        "__pow__ __rpow__ __neg__ __pos__ __abs__ __bool__ __int__ __float__ __floordiv__ " ++
        "__rfloordiv__ __truediv__ __rtruediv__"
      methods := words <|
        "conjugate __trunc__ __floor__ __ceil__ __round__ as_integer_ratio hex is_integer " ++
        "__getnewargs__ __format__"
      typeMethods := words "fromhex __getformat__"
      functions := words "__new__"
      computed := words "real imag"
    }
  | .text => {
      name := "str"
      doc := some <|
        "str(object='') -> str\nstr(bytes_or_buffer[, encoding[, errors]]) -> str\n\nCreate a " ++
        "new string object from the given object. If encoding or\nerrors is specified, then the " ++
        "object must expose a data buffer\nthat will be decoded using the given encoding and " ++
        "error handler.\nOtherwise, returns the result of object.__str__() (if defined)\nor " ++
        "repr(object).\nencoding defaults to sys.getdefaultencoding().\nerrors defaults to " ++
        "'strict'."
      basicSize := 80
      flags := 273159424
      slots := words <|
        "__repr__ __hash__ __str__ __getattribute__ __lt__ __le__ __eq__ __ne__ __gt__ __ge__ " ++
        "__iter__ __mod__ __rmod__ __len__ __getitem__ __add__ __mul__ __rmul__ __contains__"
      methods := words <|
        "encode replace split rsplit join capitalize casefold title center count expandtabs " ++
        "find partition index ljust lower lstrip rfind rindex rjust rstrip rpartition " ++
        "splitlines strip swapcase translate upper startswith endswith " ++
        "removeprefix removesuffix isascii " ++
        "islower isupper istitle isspace isdecimal isdigit isnumeric isalpha isalnum " ++
        "isidentifier isprintable zfill format format_map __format__ __sizeof__ __getnewargs__"
      functions := words "__new__ maketrans"
    }
  | .list => {
      name := "list"
      doc := some <|
        "Built-in mutable sequence.\n\nIf no argument is given, the constructor creates a new " ++
        "empty list.\nThe argument must be an iterable if specified."
      basicSize := 40
      flags := 38294816
      signature := some "(iterable=(), /)"
      slots := words <|
        "__repr__ __getattribute__ __lt__ __le__ __eq__ __ne__ __gt__ __ge__ __iter__ __init__ " ++
        "__len__ __setitem__ __delitem__ __add__ __mul__ __rmul__ __contains__ __iadd__ __imul__"
      methods := words <|
        "__getitem__ __reversed__ __sizeof__ clear copy append insert extend pop remove index " ++
        "count reverse sort"
      typeMethods := words "__class_getitem__"
      functions := words "__new__"
      absent := words "__hash__"
    }
  | .mapping => {
      name := "dict"
      doc := some <|
        "dict() -> new empty dictionary\ndict(mapping) -> new dictionary initialized from a " ++
        "mapping object's\n    (key, value) pairs\ndict(iterable) -> new dictionary initialized " ++
        "as if via:\n    d = \x7b\x7d\n    for k, v in iterable:\n        d[k] = v\n" ++
        "dict(**kwargs) -> new dictionary initialized with the name=value pairs\n    in the " ++
        "keyword argument list.  For example:  dict(one=1, two=2)"
      basicSize := 48
      flags := 541611328
      slots := words <|
        "__repr__ __getattribute__ __lt__ __le__ __eq__ __ne__ __gt__ __ge__ __iter__ __init__ " ++
        "__or__ __ror__ __ior__ __len__ __setitem__ __delitem__"
      methods := words <|
        "__getitem__ __contains__ __sizeof__ get setdefault pop popitem keys items values " ++
        "update clear copy __reversed__"
      typeMethods := words "fromkeys __class_getitem__"
      functions := words "__new__"
      absent := words "__hash__"
    }
  | .nothing => {
      name := "NoneType"
      basicSize := 16
      flags := 528640
      slots := words "__repr__ __bool__"
      functions := words "__new__"
    }
  | .tuple => {
      name := "tuple"
      doc := some <|
        "Built-in immutable sequence.\n\nIf no argument is given, the constructor returns an " ++
        "empty tuple.\nIf iterable is specified the tuple is initialized from " ++
        "iterable's items.\n" ++
        "\nIf the argument is a tuple, the return value is the same object."
      basicSize := 24
      itemSize := 8
      flags := 71849248
      signature := some "(iterable=(), /)"
      slots := words <|
        "__repr__ __hash__ __getattribute__ __lt__ __le__ __eq__ __ne__ __gt__ __ge__ __iter__ " ++
        "__len__ __getitem__ __add__ __mul__ __rmul__ __contains__"
      methods := words "__getnewargs__ index count"
      typeMethods := words "__class_getitem__"
      functions := words "__new__"
    }
  | .function => {
      name := "builtin_function_or_method"
      basicSize := 56
      weakOffset := 40
      flags := 547200
      slots := words
        "__repr__ __hash__ __call__ __getattribute__ __lt__ __le__ __eq__ __ne__ __gt__ __ge__"
      methods := words "__reduce__"
      computed := words "__doc__ __name__ __qualname__ __self__ __text_signature__"
      stored := words "__module__"
    }
  | .wrapper => {
      name := "method-wrapper"
      basicSize := 32
      flags := 20864
      slots := words
        "__repr__ __hash__ __call__ __getattribute__ __lt__ __le__ __eq__ __ne__ __gt__ __ge__"
      methods := words "__reduce__"
      computed := words "__objclass__ __name__ __qualname__ __doc__ __text_signature__"
      stored := words "__self__"
    }
  | .method => {
      name := "method_descriptor"
      basicSize := 56
      flags := 153984
      slots := words "__repr__ __call__ __getattribute__ __get__"
      methods := words "__reduce__"
      computed := words "__doc__ __qualname__ __text_signature__"
      stored := words "__objclass__ __name__"
    }
  | .slot => {
      name := "wrapper_descriptor"
      basicSize := 56
      flags := 676224
      slots := words "__repr__ __call__ __getattribute__ __get__"
      methods := words "__reduce__"
      computed := words "__doc__ __qualname__ __text_signature__"
      stored := words "__objclass__ __name__"
    }
  | .computed => {
      name := "getset_descriptor"
      basicSize := 48
      flags := 545152
      slots := words "__repr__ __getattribute__ __get__ __set__ __delete__"
      computed := words "__doc__ __qualname__"
      stored := words "__objclass__ __name__"
    }
  | .typeMethod => {
      name := "classmethod_descriptor"
      basicSize := 56
      flags := 20864
      slots := words "__repr__ __call__ __getattribute__ __get__"
      computed := words "__doc__ __qualname__ __text_signature__"
      stored := words "__objclass__ __name__"
    }
  | .stored => {
      name := "member_descriptor"
      basicSize := 48
      flags := 545152
      slots := words "__repr__ __getattribute__ __get__ __set__ __delete__"
      methods := words "__reduce__"
      computed := words "__doc__ __qualname__"
      stored := words "__objclass__ __name__"
    }

/-- The name of a kind. -/
def name (k : Kind) : String := k.info.name

/-- How a kind reads. -/
def inspect (k : Kind) : String := "<class '" ++ k.name ++ "'>"

/-- The kind above a kind. -/
def base? : Kind → Option Kind
  | .object => none
  | .bool => some .int
  | _ => some .object

/-- A kind and those above it. -/
def lineage : Kind → List Kind
  | .object => [.object]
  | .bool => [.bool, .int, .object]
  | k => [k, .object]

/-- The nearest kind in a lineage that holds a member, and in which role. -/
def find? (k : Kind) (member : String) : Option (Kind × Role) :=
  k.lineage.findSome? fun k => (k.info.role? member).map (k, ·)

/-- The kind of a value. -/
def ofValue : Json → Kind
  | .null => .nothing
  | .bool _ => .bool
  | .int _ => .int
  | .float _ => .float
  | .str _ => .text
  | .arr _ => .list
  | .obj _ => .mapping

end Kind

end Voicemail.Template
