namespace AlertRange.Text

abbrev CodeRange := Nat × Nat

def covers (table : List CodeRange) (c : Char) : Bool :=
  table.any fun range => range.1 ≤ c.toNat && c.toNat ≤ range.2

end AlertRange.Text
