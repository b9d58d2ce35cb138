import ChatTurn.Unicode.CharSet

namespace ChatTurn.Unicode

abbrev Row := List Span

namespace Span

def widths : List Span :=
  [⟨0, 0x7F⟩, ⟨0x80, 0x7FF⟩, ⟨0x800, 0xD7FF⟩, ⟨0xE000, 0xFFFF⟩, ⟨0x10000, 0x10FFFF⟩]

def cutFront (block : Nat) (s : Span) : List Span :=
  if s.low / block = s.high / block ∨ s.low % block = 0 then [s]
  else
    let n := (s.low / block + 1) * block
    [⟨s.low, n - 1⟩, ⟨n, s.high⟩]

def cutBack (block : Nat) (s : Span) : List Span :=
  if s.low / block = s.high / block ∨ (s.high + 1) % block = 0 then [s]
  else
    let n := s.high / block * block
    [⟨s.low, n - 1⟩, ⟨n, s.high⟩]

/-- The pieces in which each byte runs through a span of its own: later bytes run through all their
values wherever an earlier one changes. -/
def pieces (s : Span) : List Span :=
  if s.high < 0x80 then [s]
  else [1 <<< 6, 1 <<< 12, 1 <<< 18].foldl
    (fun ps block => ps.flatMap fun p => (p.cutFront block).flatMap (cutBack block)) [s]

def bytes (n : Nat) : List Nat := (String.utf8EncodeChar (Char.ofNat n)).map UInt8.toNat

def row (s : Span) : Row := List.zipWith Span.mk (bytes s.low) (bytes s.high)

def rows (s : Span) : List Row := ((widths.filterMap s.inter?).flatMap pieces).map row

end Span

def CharSet.rows (a : CharSet) : List Row := a.toList.flatMap Span.rows

end ChatTurn.Unicode
