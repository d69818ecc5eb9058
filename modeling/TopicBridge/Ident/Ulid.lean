import TopicBridge.Time.Instant
import TopicBridge.Text.Blank
import TopicBridge.Text.Case

/-!
# Sortable identifiers

Exchanges and events are named by **ULIDs**: 26 characters of Crockford's base 32
(digits and capital letters without `I`, `L`, `O`, `U`), the first ten encoding the
millisecond of creation and the other sixteen an 80-bit random part. Identifiers made
within one millisecond increase their random part by one, so they sort in order of
creation.

`IdSource` is a repeatable source: the random part of its `n`-th identifier is `n`, which
keeps every identifier well-formed and sorted. The relay takes its source of identifiers as a
parameter (`TopicBridge.Relay.RelaySetup.run`), of which this is one instance.

* `TopicBridge.Ident.ulidText`, `TopicBridge.Ident.IdSource.next`, `TopicBridge.Ident.clientId`.
-/

namespace TopicBridge.Ident

/-- The thirty-two digits of Crockford's base 32. -/
def crockford : Array Char := "0123456789ABCDEFGHJKMNPQRSTVWXYZ".toList.toArray

/-- The `count` lowest base-32 digits of `n`, most significant first. -/
def base32Digits (n : Nat) : Nat → List Char
  | 0 => []
  | count + 1 => base32Digits (n / 32) count ++ [crockford.getD (n % 32) '0']

/-- The identifier of a millisecond and a random part. -/
def ulidText (millis entropy : Nat) : String :=
  String.ofList (base32Digits (millis % Nat.pow 2 48 * Nat.pow 2 80 + entropy % Nat.pow 2 80) 26)

/-- A source of identifiers: how many it has handed out. -/
structure IdSource where
  /-- The number of identifiers handed out so far. -/
  issued : Nat := 0
  deriving Repr, DecidableEq, Inhabited

/-- The next identifier at an instant, and the source after handing it out. -/
def IdSource.next (s : IdSource) (t : Time.Instant) : String × IdSource :=
  let ms := (t.nanos / Time.nanosPerMilli).toNat
  (ulidText ms (s.issued + 1), { issued := s.issued + 1 })

/-- A broker client identifier: the prefix without surrounding blanks and trailing dashes
(or `mqtt-bridge` when that leaves nothing), a dash, and a lower-cased identifier. -/
def clientId (pfx ulid : String) : String :=
  let p := Text.trimRightChar (Text.trimBlank pfx) '-'
  (if p.isEmpty then "mqtt-bridge" else p) ++ "-" ++ Text.toLower ulid

/-- Whether a text has the shape of an identifier: 26 digits of Crockford's base 32, the
first at most `7`. -/
def isUlidText (s : String) : Bool :=
  s.length == 26 && s.toList.all (crockford.contains ·) && s.toList.head?.any (fun c => decide (c ≤ '7'))

theorem base32Digits_length (n count : Nat) : (base32Digits n count).length = count := by
  induction count generalizing n with
  | zero => rfl
  | succ k ih => simp [base32Digits, ih]

end TopicBridge.Ident
