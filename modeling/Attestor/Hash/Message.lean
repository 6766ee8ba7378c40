namespace Attestor.Hash

def bigEndian (count n : Nat) : List UInt8 :=
  (List.range count).reverse.map fun i => UInt8.ofNat (n / Nat.pow 256 i)

def ofBigEndian (bytes : List UInt8) : Nat :=
  bytes.foldl (fun n byte => 256 * n + byte.toNat) 0

def padded (blockSize lengthSize : Nat) (message : List UInt8) : List UInt8 :=
  let used := (message.length + 1 + lengthSize) % blockSize
  let zeros := (blockSize - used) % blockSize
  message ++ 0x80 :: List.replicate zeros 0 ++ bigEndian lengthSize (8 * message.length)

def chunks {α : Type} (size : Nat) (list : List α) : List (List α) :=
  (List.range (list.length / size)).foldl
    (fun (done, rest) _ => (rest.take size :: done, rest.drop size)) ([], list) |>.1.reverse

def blocks (blockSize lengthSize : Nat) (message : List UInt8) : List (List UInt8) :=
  chunks blockSize (padded blockSize lengthSize message)

def words (size : Nat) (block : List UInt8) : List Nat :=
  (chunks size block).map ofBigEndian

end Attestor.Hash
