import BridgeCustody.Fault

/-!
# Balances of Tokens

A contract may ask a token for the balance of an account. The token answers with
text that should be an amount, or with a failure, or there is no token at all.

## Main definitions

* `TokenReply`: What comes back when a token is asked.
* `TokenReply.balance`: The balance it states, or the fault.
* `TokenBook`: Tokens with the balances they state.
* `TokenBook.reply`: What a token of the book answers.
-/

namespace BridgeCustody

/-- What comes back when a token is asked for a balance. -/
inductive TokenReply
  /-- There is no such token. -/
  | missing
  /-- The token fails with a text. -/
  | failed (text : String)
  /-- The token states a balance. -/
  | stated (text : String)
deriving DecidableEq

/-- The balance that `token` states by a reply. -/
def TokenReply.balance (token : Address) : TokenReply → Except Fault Amount
  | missing => .error (.noSuchToken token)
  | failed text => .error (.tokenFailed text)
  | stated text =>
    match Amount.read? text with
    | some amount => .ok amount
    | none => .error .unreadable

/-- The tokens there are, the balances they state, the latest statement first,
    and those that fail whatever they are asked. -/
structure TokenBook where
  tokens : List Address := []
  statements : List ((Address × Address) × String) := []
  failures : List (Address × String) := []

namespace TokenBook

/-- Lets there be a token from now on. -/
def adding (book : TokenBook) (token : Address) : TokenBook :=
  { book with tokens := token :: book.tokens }

/-- Lets `token` state a balance of `account` from now on. -/
def stating (book : TokenBook) (token account : Address) (text : String) : TokenBook :=
  { book.adding token with statements := ((token, account), text) :: book.statements }

/-- Lets `token` fail from now on. -/
def failing (book : TokenBook) (token : Address) (text : String) : TokenBook :=
  { book with failures := (token, text) :: book.failures }

/-- What `token` answers when asked for the balance of `account`. A token states
    zero for every account that nothing else was said about. -/
def reply (book : TokenBook) (token account : Address) : TokenReply :=
  match book.failures.lookup token with
  | some text => .failed text
  | none =>
    match book.statements.lookup (token, account) with
    | some text => .stated text
    | none => if token ∈ book.tokens then .stated "0" else .missing

end TokenBook

end BridgeCustody
