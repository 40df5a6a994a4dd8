/-!
Powers of two that bound the integers of a fixed width.
-/
namespace DeviceEnrollment.Number

def twoTo31 : Nat := 2147483648
def twoTo32 : Nat := 4294967296
def twoTo63 : Nat := 9223372036854775808
def twoTo64 : Nat := 18446744073709551616
def twoTo127 : Nat := 170141183460469231731687303715884105728
def twoTo128 : Nat := 340282366920938463463374607431768211456

end DeviceEnrollment.Number
