/-!
Powers of numbers.

A natural power is the one of the core library in every module, also in those that import an
algebraic hierarchy with powers of its own.
-/

attribute [instance (20000), default_instance (20000)] instPowNat
