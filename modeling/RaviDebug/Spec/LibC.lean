import Mathlib.Data.List.Basic
import Mathlib.Algebra.Group.Int

/-!
# The C library calls of `ravidebug.c`

Bytes are `Char`s and a byte string is a `List Char`. A C string is read up to its first NUL
(`cstr`); a `char` array of `n` bytes is a list of length `n`. The functions follow the C
standard, `atoi` the glibc one (`(int) strtol (s, NULL, 10)`), and `fprintf (out, buf)` with no
further argument reads `buf` as a format (`printfNoArgs`).
-/

namespace RaviDebug

/-- The NUL byte that ends a C string. -/
def nul : Char := '\x00'

/-- The characters of a C string: those before its terminating NUL. -/
def cstr (s : List Char) : List Char := s.takeWhile (· ≠ nul)

/-! ## Input -/

/-- The line `fgets` reads when it may store `k` more bytes: through the first newline, or
`k` bytes, or to the end of the stream. Returns the line and the rest of the stream. -/
def fgetsLine : Nat → List Char → List Char × List Char
  | 0, inp => ([], inp)
  | _ + 1, [] => ([], [])
  | k + 1, c :: cs =>
    if c = '\n' then ([c], cs) else Prod.map (c :: ·) id (fgetsLine k cs)

/-- `fgets (buf, n, stream)`: `none` (NULL) at the end of the stream, else the line read into
a buffer of `n` bytes and the rest of the stream. -/
def fgets (n : Nat) (inp : List Char) : Option (List Char × List Char) :=
  if inp = [] then none else some (fgetsLine (n - 1) inp)

/-- `fread (buf, size, 1, stream) == 1`: the `size` bytes read and the rest of the stream; a
short read, and a read of `size = 0`, return 0 items (`none`). -/
def fread (size : Nat) (inp : List Char) : Option (List Char × List Char) :=
  if 0 < size ∧ size ≤ inp.length then some (inp.take size, inp.drop size) else none

/-- `strstr (hay, needle)`: the suffix of `hay` (a byte list already cut at its NUL) that
starts at the first occurrence of `needle`. -/
def strstrFrom (needle : List Char) : List Char → Option (List Char)
  | [] => if needle = [] then some [] else none
  | c :: cs => if needle.isPrefixOf (c :: cs) then some (c :: cs) else strstrFrom needle cs

/-- `strstr (hay, needle)` on the C string `hay`. -/
def strstr (hay needle : List Char) : Option (List Char) := strstrFrom needle (cstr hay)

/-! ## `atoi` -/

/-- The bytes `isspace` accepts in the C locale. -/
def isSpace (c : Char) : Bool :=
  c = ' ' || c = '\t' || c = '\n' || c = '\x0b' || c = '\x0c' || c = '\r'

/-- The value of the decimal digits at the head of a byte string, after `acc`. -/
def digitsValue (acc : Nat) : List Char → Nat
  | [] => acc
  | c :: cs => if c.isDigit then digitsValue (10 * acc + (c.toNat - '0'.toNat)) cs else acc

/-- `strtol (s, NULL, 10)` for a 64-bit `long`: leading blanks, a sign, the digits, the value
saturated at `LONG_MIN` and `LONG_MAX`. -/
def strtol (s : List Char) : Int :=
  let t := (cstr s).dropWhile isSpace
  let v : Int := match t with
    | '-' :: ds => -(digitsValue 0 ds : Int)
    | '+' :: ds => digitsValue 0 ds
    | ds => digitsValue 0 ds
  max (-2 ^ 63) (min v (2 ^ 63 - 1))

/-- The conversion of a `long` to a 32-bit `int`, modulo `2 ^ 32`. -/
def toInt32 (v : Int) : Int := (v + 2 ^ 31) % 2 ^ 32 - 2 ^ 31

/-- `atoi (s)`: glibc's `(int) strtol (s, NULL, 10)`. -/
def atoi (s : List Char) : Int := toInt32 (strtol s)

/-- The value of an `int` converted to `size_t` (64 bits), as in `len >= sizeof buf`. -/
def sizeT (x : Int) : Nat := (x % 2 ^ 64).toNat

/-! ## Strings -/

/-- `strncpy (dst, src, n)` from a C string: the `n` bytes stored in `dst`, the copy padded
with NULs, and not terminated when `src` has `n` characters or more. -/
def strncpy (n : Nat) (src : List Char) : List Char :=
  (cstr src).take n ++ List.replicate (n - (cstr src).length) nul

/-- `strncpy (dst, src, n)` from an array `src` of `src.length` bytes, which need not hold a
NUL: reading stops at a NUL or after `n` bytes, and reading past the array is undefined
(`none`). -/
def strncpyArray (n : Nat) (src : List Char) : Option (List Char) :=
  if n ≤ src.length ∨ nul ∈ src then some (strncpy n src) else none

/-- `strrchr (s, c) + 1`: what follows the last `c` of the C string `s`, if `c` occurs. -/
def afterLast (c : Char) (s : List Char) : Option (List Char) :=
  if c ∈ cstr s then some ((cstr s).reverse.takeWhile (· ≠ c)).reverse else none

/-- `snprintf (buf, n, ...)` once the format is expanded to `text`: the C string stored. -/
def snprintf (n : Nat) (text : List Char) : List Char := text.take (n - 1)

/-! ## Output -/

/-- The bytes `fprintf (out, buf)` writes for the format `buf` and no arguments: `%%` prints
one `%`; any other conversion reads an argument that is not there (`none`). -/
def printfNoArgs : List Char → Option (List Char)
  | [] => some []
  | '%' :: '%' :: r => (printfNoArgs r).map ('%' :: ·)
  | '%' :: _ => none
  | c :: r => (printfNoArgs r).map (c :: ·)

end RaviDebug
