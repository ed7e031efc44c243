import Blueprints.Value.Basic

namespace Blueprints.Value

/-- The number that a value stands for, if it is a number or a truth value: an integer, or a
    decimal that is not an integer. -/
def numeric? : Value -> Option (Sum Int Decimal)
  | .bool b => some (.inl (if b then 1 else 0))
  | .int n => some (.inl n)
  | .float x => match x.toInt? with
    | some n => some (.inl n)
    | Option.none => some (.inr x.normalize)
  | _ => Option.none

mutual
def equal : Value -> Value -> Bool
  | .none, .none => true
  | .str a, .str b => a == b
  | .list as, .list bs => equalItems as bs
  | .tuple as, .tuple bs => equalItems as bs
  | .dict as, .dict bs => as.length == bs.length && equalEntries as bs
  | .entity a, .entity b => equalEntity a b
  | .builtin p, .builtin q => p == q
  | .status a, .status b => a == b
  | .object c as, .object d bs => c == d && as.length == bs.length && equalFields as bs
  | .record _ as, .record _ bs => as.length == bs.length && equalFields as bs
  | a, b => match a.numeric?, b.numeric? with
    | some (.inl m), some (.inl n) => m == n
    | some (.inr x), some (.inr y) => x == y
    | _, _ => false
termination_by a b => sizeOf a + sizeOf b

def equalItems : List Value -> List Value -> Bool
  | [], [] => true
  | a :: as, b :: bs => equal a b && equalItems as bs
  | _, _ => false
termination_by as bs => sizeOf as + sizeOf bs

/-- Whether each entry of the first dictionary has an equal entry under an equal key in `all`. -/
def equalEntries : List (Value × Value) -> List (Value × Value) -> Bool
  | [], _ => true
  | (k, v) :: es, all => lookupEqual k v all && equalEntries es all
termination_by es all => sizeOf es + sizeOf all

/-- Whether `all` has an entry with a key equal to `k` whose value equals `v`. -/
def lookupEqual (k v : Value) : List (Value × Value) -> Bool
  | [] => false
  | (k', v') :: rest => if equal k k' then equal v v' else lookupEqual k v rest
termination_by all => sizeOf k + sizeOf v + sizeOf all

/-- Field-by-field equality of attribute groups. -/
def equalFields : List (String × Value) -> List (String × Value) -> Bool
  | [], [] => true
  | (k, a) :: as, (k', b) :: bs => k == k' && equal a b && equalFields as bs
  | _, _ => false
termination_by as bs => sizeOf as + sizeOf bs

/-- Whether two classes are the same class. -/
def equalEntity : Entity -> Entity -> Bool
  | .mk k n _ as _, .mk k' n' _ bs _ => k == k' && n == n' && equalFields as bs
termination_by a b => sizeOf a + sizeOf b
end

end Blueprints.Value
