import ContentFilter.Text.Basic

/-!
# The host of a URL

Of a URL only the host is looked at, and only in the form
`scheme://credentials@host:8080/…`. The authority runs from the first
`://` to the first `/`, `?` or `#` behind it; credentials end at the last
`@` of the authority; what is left up to the first `:` is the host, except
that an address in brackets runs to its closing bracket and keeps both.

A URL without `://`, with an empty host or with a bracket that is not
closed has no host.
-/

namespace ContentFilter.Url

/-- **A character that ends the authority.** -/
def endsAuthority (c : Char) : Bool :=
  c == '/' || c == '?' || c == '#'

/-- **What follows the first `://`.** -/
def afterScheme? : Text → Option Text
  | ':' :: '/' :: '/' :: rest => some rest
  | _ :: rest => afterScheme? rest
  | [] => none

/-- **The authority** at the start of a text. -/
def authority (t : Text) : Text :=
  t.takeWhile fun c => !endsAuthority c

/-- **An authority without its credentials.** -/
def dropCredentials (t : Text) : Text :=
  match Search.splitLast? '@' t with
  | some (_, host) => host
  | none => t

/-- **A host without the number behind it**; there is none if a bracket
stays open. -/
def beforeColon? (t : Text) : Option Text :=
  match t with
  | '[' :: _ => (Search.splitFirst? ']' t).map fun (address, _) => address ++ [']']
  | _ => some (t.takeWhile (· != ':'))

/-- **The host of a URL.** -/
def host? (url : Text) : Option Text := do
  let rest ← afterScheme? url
  let host ← beforeColon? (dropCredentials (authority rest))
  if host = [] then none else some host

/-- A host is never empty. -/
theorem host?_ne_nil {url host : Text} (h : host? url = some host) : host ≠ [] := by
  obtain ⟨rest, -, h⟩ := Option.bind_eq_some_iff.1 h
  obtain ⟨t, -, h⟩ := Option.bind_eq_some_iff.1 h
  split at h
  · simp at h
  · next hne => exact Option.some.inj h ▸ hne

end ContentFilter.Url
