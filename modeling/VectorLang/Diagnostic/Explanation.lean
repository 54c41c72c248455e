import VectorLang.Diagnostic.Code

/-!
# Explanations of error codes

Each error code has a page of documentation in Markdown, with an example program
that causes the error.
-/

namespace VectorLang.ErrorCode

/-- The page that explains a code. -/
def explanation : ErrorCode → String
  | .invalidCharacter => "# E0002: Invalid character

The source contains a character that does not start any token.

```mylang
var a = 3 $ 4
```

MyLang has no `$` operator. The valid symbols are
`= - + * ! && == ; , ( ) \x7b \x7d [ ]`.
"
  | .integerOutOfRange => "# E0003: Integer literal out of range

Integer literals must fit in a signed 32-bit integer (at most `2147483647`).

```mylang
print 3000000000
```

Negative numbers are written with unary minus, so `-2147483648` is also
rejected: its literal part does not fit.
"
  | .unexpectedToken => "# E1001: Unexpected token

The parser found a token that cannot appear at this position.

```mylang
var = 3
```

A `var` declaration needs a name before `=`. Statements are separated by
`;`, blocks are delimited by `\x7b` and `\x7d`, and vector literals are written
`[length; index]`.
"
  | .typeMismatch => "# E2001: Type mismatch

An expression has a different static type than the context requires.

```mylang
var x = 1;
x = true
```

`x` was declared as `INT`, so it can only be assigned integers. Other
common causes:

- `if` conditions must be `BOOL`
- `+` takes two `INT`s or two `VECTOR`s
- `*` takes `INT`s and `VECTOR`s; `INT * BOOL` is rejected
- `fst` and `snd` need a pair
- `foreach` iterates over a `VECTOR`
- both sides of `==` must have the same type
"
  | .undeclaredVariable => "# E2003: Undeclared variable

A variable is used or assigned before any visible `var` declaration.

```mylang
if (true) \x7b var y = 1 \x7d;
print y
```

`y` is declared inside the block and goes out of scope when the block
ends. Declare it before the `if` and assign to it inside instead.
"
  | .alreadyDeclared => "# E2006: Variable already declared

A `var` declaration reuses a name already declared in the same scope.

```mylang
var x = 1;
var x = 2
```

Use an assignment (`x = 2`) to change the value, or declare the new
variable inside a block to shadow the outer one.
"
  | .runtimeTypeMismatch => "# E6001: Runtime type mismatch

A value of the wrong kind reached an operation during execution. This
cannot happen in a program that passed type checking; it shows up when
running with `--no-typecheck`.

```mylang
print 1 + [2;0]
```

Vectors can only be added to vectors, and integers to integers.
"
  | .runtimeUndeclaredVariable => "# E6002: Undeclared variable at runtime

The interpreter read or assigned a variable that no enclosing scope
declares. Type checking reports the same problem as E2003 before the
program runs.
"
  | .runtimeAlreadyDeclared => "# E6003: Variable already declared at runtime

The interpreter executed a `var` declaration for a name the current scope
already binds. Type checking reports the same problem as E2006 before the
program runs.
"
  | .dimensionMismatch => "# E6004: Vector dimension mismatch

Vector addition and the dot product need vectors of the same length.

```mylang
print [2;0] + [3;0]
```

The left vector has length 2 and the right one length 3.
"
  | .negativeLength => "# E6005: Negative vector length

The length of a vector literal `[length; index]` evaluated to a negative
number.

```mylang
var n = -1;
print [n;0]
```
"
  | .indexOutOfBounds => "# E6006: Vector index out of bounds

The index of a vector literal `[length; index]` must be at least `0` and
less than `length`.

```mylang
print [3;3]
```

A vector of length 3 has indices `0`, `1` and `2`.
"

end VectorLang.ErrorCode
