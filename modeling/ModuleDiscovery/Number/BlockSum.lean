namespace ModuleDiscovery.Number

def leftSum : List Float → Float
  | []      => 0.0
  | x :: xs => xs.foldl (· + ·) x

-- Adds the numbers in rows of eight to eight lanes; a last row that is not full is left out.
def addRows (lanes : List Float) : List Float → List Float
  | a :: b :: c :: d :: e :: f :: g :: h :: xs =>
    addRows (List.zipWith (· + ·) lanes [a, b, c, d, e, f, g, h]) xs
  | _ => lanes

-- Sum of eight lanes, as a sum of sums of pairs.
def laneSum : List Float → Float
  | [a, b, c, d, e, f, g, h] => ((a + b) + (c + d)) + ((e + f) + (g + h))
  | xs                       => leftSum xs

-- The sum of numbers, which depends on how they are grouped, as additions round. Up to 128 of them are added in eight
-- lanes, or from left to right if they are few. More are halved first, at a multiple of eight.
def blockSum (xs : List Float) : Float :=
  let n := xs.length
  if n < 8 then
    leftSum xs
  else if n ≤ 128 then
    (xs.drop (n - n % 8)).foldl (· + ·) (laneSum (addRows (xs.take 8) (xs.drop 8)))
  else
    let half := n / 2 - n / 2 % 8
    blockSum (xs.take half) + blockSum (xs.drop half)
termination_by xs.length
decreasing_by all_goals simp; omega

end ModuleDiscovery.Number
