import ContentFilter.Token

/-!
# Cosmetic filters

A cosmetic filter names elements of a page that are to be hidden, by a
selector, or scripts that are to be blocked or injected. It is limited to
the hostnames it lists, in the order of the rule; each is a hostname, an
entity `name.*` that stands for the name under any public suffix, or one
of these behind a `~`.

Like the mask of a network filter, the mask is built in one step from the
flags that hold, and exactly these can be read off it (`has_of`). Here two
filters are the same only if they agree in everything.
-/

namespace ContentFilter

/-- **What a cosmetic filter says by yes or no.** -/
inductive CosmeticFlag where
  /-- The filter takes back what others hide. -/
  | unhide
  /-- The selector names scripts to block. -/
  | scriptBlock
  /-- The selector holds the arguments of a script to inject. -/
  | scriptInject
  /-- Some hostname was not ASCII as written. -/
  | unicode
  deriving DecidableEq, Repr

namespace CosmeticFlag

/-- **The bit of a flag.** -/
def bit : CosmeticFlag → UInt8
  | unhide => 1
  | scriptBlock => 2
  | scriptInject => 4
  | unicode => 8

end CosmeticFlag

/-- **The mask of a cosmetic filter**: 8 bits. -/
structure CosmeticMask where
  /-- The bits, as a number. -/
  bits : UInt8
  deriving DecidableEq, Repr

namespace CosmeticMask

/-- **Whether a flag's bit is set.** -/
def has (m : CosmeticMask) (f : CosmeticFlag) : Bool :=
  m.bits &&& f.bit == f.bit

/-- The mask with the given bits. -/
def ofBits (unhide scriptBlock scriptInject unicode : Bool) : CosmeticMask :=
  ⟨(if unhide then 1 else 0) ||| (if scriptBlock then 2 else 0)
    ||| (if scriptInject then 4 else 0) ||| (if unicode then 8 else 0)⟩

/-- **The mask of the flags that hold.** -/
def of (p : CosmeticFlag → Bool) : CosmeticMask :=
  ofBits (p .unhide) (p .scriptBlock) (p .scriptInject) (p .unicode)

/-- **Exactly the flags that hold can be read off their mask.** -/
@[simp] theorem has_of (p : CosmeticFlag → Bool) (f : CosmeticFlag) : (of p).has f = p f := by
  have bits : ∀ u b i c : Bool, let m := ofBits u b i c
      m.has .unhide = u ∧ m.has .scriptBlock = b ∧ m.has .scriptInject = i ∧
        m.has .unicode = c := by
    decide
  obtain ⟨hu, hb, hi, hc⟩ := bits (p .unhide) (p .scriptBlock) (p .scriptInject) (p .unicode)
  cases f <;> assumption

end CosmeticMask

/-- **A filter for the content of pages.** -/
structure CosmeticFilter where
  /-- What the filter says by yes or no. -/
  mask : CosmeticMask
  /-- The hostname patterns, in the order of the rule. -/
  hostnames : List Text
  /-- The selector, or the arguments of a script. -/
  selector : Text
  /-- The line the filter was made from, if it was kept. -/
  rawLine? : Option Text
  /-- The identity. -/
  id : Hash
  deriving DecidableEq, Repr

namespace CosmeticFilter

/-- **The words a filter is identified by.** -/
def identityWords (hostnames : List Text) (selector : Text) : List UInt32 :=
  hostnames.map Hash.ofText ++ ['#'.val] ++ selector.codePoints

/-- **The identity of a filter.** -/
def identity (mask : CosmeticMask) (hostnames : List Text) (selector : Text) : Hash :=
  Hash.mix (Hash.seed mask.bits.toUInt32) (identityWords hostnames selector)

/-- **A filter with the identity that follows from the rest.** -/
def make (mask : CosmeticMask) (hostnames : List Text) (selector : Text)
    (rawLine? : Option Text) : CosmeticFilter where
  mask := mask
  hostnames := hostnames
  selector := selector
  rawLine? := rawLine?
  id := identity mask hostnames selector

/-- **The tokens of a filter**: those of its selector. -/
def tokens (f : CosmeticFilter) : List Hash :=
  selectorTokens f.selector

/-- The selector as it is written. -/
def selectorToText (f : CosmeticFilter) : Text :=
  if f.mask.has .scriptBlock then "script:contains(".toList ++ f.selector ++ [')']
  else if f.mask.has .scriptInject then "script:inject(".toList ++ f.selector ++ [')']
  else f.selector

/-- **A filter as it is written**: the line it was made from, or else its
hostnames, the separator and its selector. -/
def toText (f : CosmeticFilter) : Text :=
  match f.rawLine? with
  | some line => line
  | none =>
    Text.join [','] f.hostnames ++
      (if f.mask.has .unhide then ['#', '@', '#'] else ['#', '#']) ++ f.selectorToText

end CosmeticFilter

end ContentFilter
