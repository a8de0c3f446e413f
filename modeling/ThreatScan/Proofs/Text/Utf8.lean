/-
# The length of an encoding

The size of a content is counted without encoding it; it is the number of its bytes all the same.
-/
import ThreatScan.Text.Utf8

namespace ThreatScan
namespace Text

theorem length_encodeOne (c : CodePoint) : (encodeOne c).length = byteCount c := by
  unfold encodeOne byteCount
  split
  · rfl
  split
  · rfl
  split <;> rfl

/-- **The counted length is the number of bytes.** -/
theorem encodedLength_eq (t : Text) : encodedLength t = (encode t).length := by
  suffices h : ∀ (t : Text) (n : Nat),
      t.foldl (fun n c => n + byteCount c) n = n + (encode t).length by
    simpa [encodedLength] using h t 0
  intro t
  induction t with
  | nil => intro n; rfl
  | cons c t ih =>
    intro n
    have hcons : encode (c :: t) = encodeOne c ++ encode t := rfl
    rw [List.foldl_cons, ih, hcons, List.length_append, length_encodeOne, Nat.add_assoc]

theorem encode_append (t u : Text) : encode (t ++ u) = encode t ++ encode u := by
  unfold encode
  exact List.flatMap_append

/-- A part of a text has no more bytes. -/
theorem length_encode_le_of_part {t u : Text} (h : t <:+: u) :
    (encode t).length ≤ (encode u).length := by
  obtain ⟨a, b, rfl⟩ := h
  rw [encode_append, encode_append, List.length_append, List.length_append]
  omega

end Text
end ThreatScan
