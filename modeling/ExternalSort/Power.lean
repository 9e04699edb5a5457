/-!
# Powers of natural numbers

A power of natural numbers is always `Nat.pow`, whichever other powers are in
scope where it is written. So a size means the same in modules that see the powers
of other structures and in those that do not.
-/

attribute [instance (20000), default_instance 20000] instPowNat
