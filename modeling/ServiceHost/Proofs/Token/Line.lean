import ServiceHost.Proofs.Token.Word

/-!
# Lines of pieces

A line is a sequence of pieces with single blanks between them. It is scanned piece by piece, as
long as each piece is scanned up to its own end.

## Main results

* `Token.scanned_line_cons` : a piece that is scanned as a token yields that token, and the line
  goes on with the next piece.
-/

namespace ServiceHost.Token

open ServiceHost.Text

variable {keys : List String}

/-- What follows a piece in the line of all pieces. -/
def following : List String → List Char
  | [] => []
  | piece :: pieces => ' ' :: (" ".intercalate (piece :: pieces)).toList

theorem toList_line_cons (piece : String) (pieces : List String) :
    (" ".intercalate (piece :: pieces)).toList = piece.toList ++ following pieces := by
  cases pieces with
  | nil => simp [following]
  | cons next pieces => simp [following, String.intercalate_cons_cons]

theorem closes_following (pieces : List String) : closes (following pieces) := by
  cases pieces <;> rfl

/-- The blank between two pieces is skipped. -/
theorem scanned_following (pieces : List String) :
    scanned keys (following pieces) = scanned keys (" ".intercalate pieces).toList := by
  cases pieces with
  | nil => simp [following]
  | cons piece pieces => exact scanned_cons_of_isBlank rfl _

/-- A piece that is scanned as a token yields that token, and the line goes on with the next
piece. -/
theorem scanned_line_cons {piece : String} {pieces : List String} {token : Token}
    (hstart : closes piece.toList = false)
    (hscan : scanToken keys (piece.toList ++ following pieces) = (token, following pieces)) :
    scanned keys (" ".intercalate (piece :: pieces)).toList =
      token :: scanned keys (" ".intercalate pieces).toList := by
  rw [toList_line_cons, scanned_of_not_closes (closes_append hstart _), hscan, scanned_following]

end ServiceHost.Token
