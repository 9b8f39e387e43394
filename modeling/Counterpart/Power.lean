/-
Powers of naturals and integers.  They are those of the core library in every module,
whatever else it imports, so that a definition with a power in it computes.
-/

attribute [instance (high)] instPowNat
attribute [default_instance 20000] instPowNat
