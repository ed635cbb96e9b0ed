import Lexing.Proofs.Json.RoundTrip
import Lexing.Proofs.Kind.Dotted
import Lexing.Wire.Codec

/-!
# Tokens on the wire

A token is written as its offset, its dotted kind and its text. Offset and text are always read
back. The kind is what its dotted form stands for, so a token comes back as it was unless the first
segment of its kind is one that stands for something else.
-/
set_option autoImplicit false

namespace Lexing

theorem Decoder.nat_draft {n : Nat} (h : n < Nat.pow 2 64) : nat (Json.int n).draft = .ok n := by
  rw [Json.draft, nat, Json.intPow_two, if_pos (by omega), Int.toNat_natCast]

theorem Decoder.string_draft (s : String) : string (Json.ofString s).draft = .ok s := by
  change Except.ok (String.ofList s.toList) = _
  rw [String.ofList_toList]

theorem Decoder.ofText_render {α : Type} (decode : Decoder α) {j : Json} (fits : j.Fits) :
    ofText decode j.render.toList = decode j.draft := by
  rw [ofText, Json.render, String.toList_ofList, Json.ofText_renderList j fits]
  dsimp only
  cases decode j.draft with
  | error e => rfl
  | ok a => rfl

theorem Kind.decode_draft (k : Kind) : decode k.encode.draft = .ok (ofDotted k.dotted) := by
  rw [decode, encode, Decoder.string_draft]
  rfl

namespace Token

theorem fits_encode {t : Token} (h : t.offset < Nat.pow 2 64) : t.encode.Fits := by
  refine ⟨⟨?_, ?_⟩, trivial, trivial, trivial⟩ <;> rw [Json.intPow_two] <;> omega

theorem decode_draft {t : Token} (h : t.offset < Nat.pow 2 64) :
    decode t.encode.draft = .ok { t with kind := .ofDotted t.kind.dotted } := by
  have hoffset := Decoder.nat_draft h
  have hkind := t.kind.decode_draft
  rw [Json.draft] at hoffset
  simp only [encode, Json.draft, Json.draftItems, decode]
  rw [hoffset, hkind]
  rfl

theorem ofText_render_encode {t : Token} (h : t.offset < Nat.pow 2 64) :
    Decoder.ofText decode t.encode.render.toList =
      .ok { t with kind := .ofDotted t.kind.dotted } := by
  rw [Decoder.ofText_render _ (fits_encode h), decode_draft h]

/-- Whatever its text, a token with an offset of 64 bits and a kind that can be made is read back
from its written form, and it is the same token if and only if its kind does not start with a
segment that stands for something else; the same kinds are what their dotted form stands for. -/
theorem returns_iff_not_reserved {t : Token} (offset : t.offset < Nat.pow 2 64)
    (made : t.kind.Made) :
    (∃ back, Decoder.ofText decode t.encode.render.toList = .ok back ∧
      back.offset = t.offset ∧ back.text = t.text ∧ (back = t ↔ ¬ t.kind.Reserved)) ∧
    (Kind.ofDotted t.kind.dotted = t.kind ↔ ¬ t.kind.Reserved) := by
  have hkind := Kind.ofDotted_dotted_eq_iff made.proper
  refine ⟨⟨_, ofText_render_encode offset, rfl, rfl, ?_⟩, hkind⟩
  rw [← hkind]
  constructor
  · exact congrArg Token.kind
  · intro h
    rw [h]

def openingQuote : Token := ⟨2, .ofDotted "String.Double", ['"']⟩

theorem openingQuote_returns : openingQuote.offset < Nat.pow 2 64 ∧ openingQuote.kind.Made ∧
    Decoder.ofText decode openingQuote.encode.render.toList = .ok openingQuote := by
  have hoffset : openingQuote.offset < Nat.pow 2 64 := by decide
  have hmade : openingQuote.kind.Made := .ofDotted _
  obtain ⟨⟨back, hback, _, _, heq⟩, _⟩ := returns_iff_not_reserved hoffset hmade
  rw [heq.2 (by decide)] at hback
  exact ⟨hoffset, hmade, hback⟩

def doubled : Token := ⟨0, .ofDotted "Token.Token", ['x']⟩

/-- It comes back as a token of the root. -/
theorem doubled_returns_root : doubled.offset < Nat.pow 2 64 ∧ doubled.kind.Made ∧
    Decoder.ofText decode doubled.encode.render.toList = .ok { doubled with kind := .root } ∧
    Kind.ofDotted doubled.kind.dotted = .root ∧ doubled.kind ≠ .root := by
  have hoffset : doubled.offset < Nat.pow 2 64 := by decide
  have hroot : Kind.ofDotted doubled.kind.dotted = .root := by decide
  refine ⟨hoffset, .ofDotted _, ?_, hroot, by decide⟩
  rw [ofText_render_encode hoffset, hroot]

end Token

end Lexing
