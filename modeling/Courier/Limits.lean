namespace Courier.Limits

/-! The limits that both ends of a connection agree on. -/

/-- The greatest number of payload bytes in a frame. -/
def message : Nat := 1048576

def bundleDepth : Nat := 16

/-- How many idle buffers a thread keeps for reuse. -/
def idleBuffers : Nat := 6

/-- The policy word in front of every interface token. -/
def strictMode : Int32 := 0

end Courier.Limits
