/-! The sizes of machine words. Counts and sizes are natural numbers here; these limits say
where a word would no longer hold them. -/

namespace Typecase.Word

/-- The first number that 32 bits cannot hold. -/
def limit32 : Nat := 4294967296

/-- The first number that 64 bits cannot hold. -/
def limit64 : Nat := 18446744073709551616

end Typecase.Word
