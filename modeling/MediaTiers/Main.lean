import MediaTiers.Demo

/-! The demonstration as a program. -/

def main : IO Unit :=
  IO.print MediaTiers.Demo.text
