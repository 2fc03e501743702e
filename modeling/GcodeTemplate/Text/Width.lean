/-!
# Measuring and filling text

Positions in a source are counted in the bytes of its UTF-8 form; columns of
padded output are counted in characters.
-/

namespace GcodeTemplate.Text

/-- The number of bytes that some characters take in UTF-8. -/
def byteWidth : List Char → Nat
  | [] => 0
  | c :: rest => c.utf8Size + byteWidth rest

@[simp]
theorem byteWidth_nil : byteWidth [] = 0 :=
  rfl

@[simp]
theorem byteWidth_cons (c : Char) (rest : List Char) :
    byteWidth (c :: rest) = c.utf8Size + byteWidth rest :=
  rfl

@[simp]
theorem byteWidth_append (front back : List Char) :
    byteWidth (front ++ back) = byteWidth front + byteWidth back := by
  induction front with
  | nil => simp
  | cons c front ih => simp [ih, Nat.add_assoc]

/-- Blanks in front of a text that is shorter than `width` characters. -/
def padLeft (width : Nat) (text : List Char) : List Char :=
  List.replicate (width - text.length) ' ' ++ text

/--
Zeros between the sign and the rest of a text, so that both together take at
least `width` characters.
-/
def padZeros (width : Nat) (sign text : List Char) : List Char :=
  sign ++ (List.replicate (width - sign.length - text.length) '0' ++ text)

end GcodeTemplate.Text
