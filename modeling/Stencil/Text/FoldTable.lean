/-!
The ASCII characters left of a code point beyond ASCII once it is decomposed and everything outside
ASCII is dropped: base letters of accented letters, digits of circled numerals, and so on.
-/

namespace Stencil.Text

/-- A run of code points that fold to one character each: all to `image`, or counting up from it. -/
structure FoldRun where
  first : Nat
  last : Nat
  image : Nat
  counting : Bool

def foldRuns : List FoldRun :=
  [⟨0x00a0, 0x00a0, 32, false⟩, ⟨0x00a8, 0x00a8, 32, false⟩, ⟨0x00aa, 0x00aa, 97, false⟩,
  ⟨0x00af, 0x00af, 32, false⟩, ⟨0x00b2, 0x00b3, 50, true⟩, ⟨0x00b4, 0x00b4, 32, false⟩,
  ⟨0x00b8, 0x00b8, 32, false⟩, ⟨0x00b9, 0x00b9, 49, false⟩, ⟨0x00ba, 0x00ba, 111, false⟩,
  ⟨0x00c0, 0x00c5, 65, false⟩, ⟨0x00c7, 0x00c7, 67, false⟩, ⟨0x00c8, 0x00cb, 69, false⟩,
  ⟨0x00cc, 0x00cf, 73, false⟩, ⟨0x00d1, 0x00d2, 78, true⟩, ⟨0x00d3, 0x00d6, 79, false⟩,
  ⟨0x00d9, 0x00dc, 85, false⟩, ⟨0x00dd, 0x00dd, 89, false⟩, ⟨0x00e0, 0x00e5, 97, false⟩,
  ⟨0x00e7, 0x00e7, 99, false⟩, ⟨0x00e8, 0x00eb, 101, false⟩, ⟨0x00ec, 0x00ef, 105, false⟩,
  ⟨0x00f1, 0x00f2, 110, true⟩, ⟨0x00f3, 0x00f6, 111, false⟩, ⟨0x00f9, 0x00fc, 117, false⟩,
  ⟨0x00fd, 0x00fd, 121, false⟩, ⟨0x00ff, 0x00ff, 121, false⟩, ⟨0x0100, 0x0100, 65, false⟩,
  ⟨0x0101, 0x0101, 97, false⟩, ⟨0x0102, 0x0102, 65, false⟩, ⟨0x0103, 0x0103, 97, false⟩,
  ⟨0x0104, 0x0104, 65, false⟩, ⟨0x0105, 0x0105, 97, false⟩, ⟨0x0106, 0x0106, 67, false⟩,
  ⟨0x0107, 0x0107, 99, false⟩, ⟨0x0108, 0x0108, 67, false⟩, ⟨0x0109, 0x0109, 99, false⟩,
  ⟨0x010a, 0x010a, 67, false⟩, ⟨0x010b, 0x010b, 99, false⟩, ⟨0x010c, 0x010c, 67, false⟩,
  ⟨0x010d, 0x010d, 99, false⟩, ⟨0x010e, 0x010e, 68, false⟩, ⟨0x010f, 0x010f, 100, false⟩,
  ⟨0x0112, 0x0112, 69, false⟩, ⟨0x0113, 0x0113, 101, false⟩, ⟨0x0114, 0x0114, 69, false⟩,
  ⟨0x0115, 0x0115, 101, false⟩, ⟨0x0116, 0x0116, 69, false⟩, ⟨0x0117, 0x0117, 101, false⟩,
  ⟨0x0118, 0x0118, 69, false⟩, ⟨0x0119, 0x0119, 101, false⟩, ⟨0x011a, 0x011a, 69, false⟩,
  ⟨0x011b, 0x011b, 101, false⟩, ⟨0x011c, 0x011c, 71, false⟩, ⟨0x011d, 0x011d, 103, false⟩,
  ⟨0x011e, 0x011e, 71, false⟩, ⟨0x011f, 0x011f, 103, false⟩, ⟨0x0120, 0x0120, 71, false⟩,
  ⟨0x0121, 0x0121, 103, false⟩, ⟨0x0122, 0x0122, 71, false⟩, ⟨0x0123, 0x0123, 103, false⟩,
  ⟨0x0124, 0x0124, 72, false⟩, ⟨0x0125, 0x0125, 104, false⟩, ⟨0x0128, 0x0128, 73, false⟩,
  ⟨0x0129, 0x0129, 105, false⟩, ⟨0x012a, 0x012a, 73, false⟩, ⟨0x012b, 0x012b, 105, false⟩,
  ⟨0x012c, 0x012c, 73, false⟩, ⟨0x012d, 0x012d, 105, false⟩, ⟨0x012e, 0x012e, 73, false⟩,
  ⟨0x012f, 0x012f, 105, false⟩, ⟨0x0130, 0x0130, 73, false⟩, ⟨0x0134, 0x0134, 74, false⟩,
  ⟨0x0135, 0x0135, 106, false⟩, ⟨0x0136, 0x0136, 75, false⟩, ⟨0x0137, 0x0137, 107, false⟩,
  ⟨0x0139, 0x0139, 76, false⟩, ⟨0x013a, 0x013a, 108, false⟩, ⟨0x013b, 0x013b, 76, false⟩,
  ⟨0x013c, 0x013c, 108, false⟩, ⟨0x013d, 0x013d, 76, false⟩, ⟨0x013e, 0x013e, 108, false⟩,
  ⟨0x013f, 0x013f, 76, false⟩, ⟨0x0140, 0x0140, 108, false⟩, ⟨0x0143, 0x0143, 78, false⟩,
  ⟨0x0144, 0x0144, 110, false⟩, ⟨0x0145, 0x0145, 78, false⟩, ⟨0x0146, 0x0146, 110, false⟩,
  ⟨0x0147, 0x0147, 78, false⟩, ⟨0x0148, 0x0149, 110, false⟩, ⟨0x014c, 0x014c, 79, false⟩,
  ⟨0x014d, 0x014d, 111, false⟩, ⟨0x014e, 0x014e, 79, false⟩, ⟨0x014f, 0x014f, 111, false⟩,
  ⟨0x0150, 0x0150, 79, false⟩, ⟨0x0151, 0x0151, 111, false⟩, ⟨0x0154, 0x0154, 82, false⟩,
  ⟨0x0155, 0x0155, 114, false⟩, ⟨0x0156, 0x0156, 82, false⟩, ⟨0x0157, 0x0157, 114, false⟩,
  ⟨0x0158, 0x0158, 82, false⟩, ⟨0x0159, 0x0159, 114, false⟩, ⟨0x015a, 0x015a, 83, false⟩,
  ⟨0x015b, 0x015b, 115, false⟩, ⟨0x015c, 0x015c, 83, false⟩, ⟨0x015d, 0x015d, 115, false⟩,
  ⟨0x015e, 0x015e, 83, false⟩, ⟨0x015f, 0x015f, 115, false⟩, ⟨0x0160, 0x0160, 83, false⟩,
  ⟨0x0161, 0x0161, 115, false⟩, ⟨0x0162, 0x0162, 84, false⟩, ⟨0x0163, 0x0163, 116, false⟩,
  ⟨0x0164, 0x0164, 84, false⟩, ⟨0x0165, 0x0165, 116, false⟩, ⟨0x0168, 0x0168, 85, false⟩,
  ⟨0x0169, 0x0169, 117, false⟩, ⟨0x016a, 0x016a, 85, false⟩, ⟨0x016b, 0x016b, 117, false⟩,
  ⟨0x016c, 0x016c, 85, false⟩, ⟨0x016d, 0x016d, 117, false⟩, ⟨0x016e, 0x016e, 85, false⟩,
  ⟨0x016f, 0x016f, 117, false⟩, ⟨0x0170, 0x0170, 85, false⟩, ⟨0x0171, 0x0171, 117, false⟩,
  ⟨0x0172, 0x0172, 85, false⟩, ⟨0x0173, 0x0173, 117, false⟩, ⟨0x0174, 0x0174, 87, false⟩,
  ⟨0x0175, 0x0175, 119, false⟩, ⟨0x0176, 0x0176, 89, false⟩, ⟨0x0177, 0x0177, 121, false⟩,
  ⟨0x0178, 0x0179, 89, true⟩, ⟨0x017a, 0x017a, 122, false⟩, ⟨0x017b, 0x017b, 90, false⟩,
  ⟨0x017c, 0x017c, 122, false⟩, ⟨0x017d, 0x017d, 90, false⟩, ⟨0x017e, 0x017e, 122, false⟩,
  ⟨0x017f, 0x017f, 115, false⟩, ⟨0x01a0, 0x01a0, 79, false⟩, ⟨0x01a1, 0x01a1, 111, false⟩,
  ⟨0x01af, 0x01af, 85, false⟩, ⟨0x01b0, 0x01b0, 117, false⟩, ⟨0x01cd, 0x01cd, 65, false⟩,
  ⟨0x01ce, 0x01ce, 97, false⟩, ⟨0x01cf, 0x01cf, 73, false⟩, ⟨0x01d0, 0x01d0, 105, false⟩,
  ⟨0x01d1, 0x01d1, 79, false⟩, ⟨0x01d2, 0x01d2, 111, false⟩, ⟨0x01d3, 0x01d3, 85, false⟩,
  ⟨0x01d4, 0x01d4, 117, false⟩, ⟨0x01d5, 0x01d5, 85, false⟩, ⟨0x01d6, 0x01d6, 117, false⟩,
  ⟨0x01d7, 0x01d7, 85, false⟩, ⟨0x01d8, 0x01d8, 117, false⟩, ⟨0x01d9, 0x01d9, 85, false⟩,
  ⟨0x01da, 0x01da, 117, false⟩, ⟨0x01db, 0x01db, 85, false⟩, ⟨0x01dc, 0x01dc, 117, false⟩,
  ⟨0x01de, 0x01de, 65, false⟩, ⟨0x01df, 0x01df, 97, false⟩, ⟨0x01e0, 0x01e0, 65, false⟩,
  ⟨0x01e1, 0x01e1, 97, false⟩, ⟨0x01e6, 0x01e6, 71, false⟩, ⟨0x01e7, 0x01e7, 103, false⟩,
  ⟨0x01e8, 0x01e8, 75, false⟩, ⟨0x01e9, 0x01e9, 107, false⟩, ⟨0x01ea, 0x01ea, 79, false⟩,
  ⟨0x01eb, 0x01eb, 111, false⟩, ⟨0x01ec, 0x01ec, 79, false⟩, ⟨0x01ed, 0x01ed, 111, false⟩,
  ⟨0x01f0, 0x01f0, 106, false⟩, ⟨0x01f4, 0x01f4, 71, false⟩, ⟨0x01f5, 0x01f5, 103, false⟩,
  ⟨0x01f8, 0x01f8, 78, false⟩, ⟨0x01f9, 0x01f9, 110, false⟩, ⟨0x01fa, 0x01fa, 65, false⟩,
  ⟨0x01fb, 0x01fb, 97, false⟩, ⟨0x0200, 0x0200, 65, false⟩, ⟨0x0201, 0x0201, 97, false⟩,
  ⟨0x0202, 0x0202, 65, false⟩, ⟨0x0203, 0x0203, 97, false⟩, ⟨0x0204, 0x0204, 69, false⟩,
  ⟨0x0205, 0x0205, 101, false⟩, ⟨0x0206, 0x0206, 69, false⟩, ⟨0x0207, 0x0207, 101, false⟩,
  ⟨0x0208, 0x0208, 73, false⟩, ⟨0x0209, 0x0209, 105, false⟩, ⟨0x020a, 0x020a, 73, false⟩,
  ⟨0x020b, 0x020b, 105, false⟩, ⟨0x020c, 0x020c, 79, false⟩, ⟨0x020d, 0x020d, 111, false⟩,
  ⟨0x020e, 0x020e, 79, false⟩, ⟨0x020f, 0x020f, 111, false⟩, ⟨0x0210, 0x0210, 82, false⟩,
  ⟨0x0211, 0x0211, 114, false⟩, ⟨0x0212, 0x0212, 82, false⟩, ⟨0x0213, 0x0213, 114, false⟩,
  ⟨0x0214, 0x0214, 85, false⟩, ⟨0x0215, 0x0215, 117, false⟩, ⟨0x0216, 0x0216, 85, false⟩,
  ⟨0x0217, 0x0217, 117, false⟩, ⟨0x0218, 0x0218, 83, false⟩, ⟨0x0219, 0x0219, 115, false⟩,
  ⟨0x021a, 0x021a, 84, false⟩, ⟨0x021b, 0x021b, 116, false⟩, ⟨0x021e, 0x021e, 72, false⟩,
  ⟨0x021f, 0x021f, 104, false⟩, ⟨0x0226, 0x0226, 65, false⟩, ⟨0x0227, 0x0227, 97, false⟩,
  ⟨0x0228, 0x0228, 69, false⟩, ⟨0x0229, 0x0229, 101, false⟩, ⟨0x022a, 0x022a, 79, false⟩,
  ⟨0x022b, 0x022b, 111, false⟩, ⟨0x022c, 0x022c, 79, false⟩, ⟨0x022d, 0x022d, 111, false⟩,
  ⟨0x022e, 0x022e, 79, false⟩, ⟨0x022f, 0x022f, 111, false⟩, ⟨0x0230, 0x0230, 79, false⟩,
  ⟨0x0231, 0x0231, 111, false⟩, ⟨0x0232, 0x0232, 89, false⟩, ⟨0x0233, 0x0233, 121, false⟩,
  ⟨0x02b0, 0x02b0, 104, false⟩, ⟨0x02b2, 0x02b2, 106, false⟩, ⟨0x02b3, 0x02b3, 114, false⟩,
  ⟨0x02b7, 0x02b7, 119, false⟩, ⟨0x02b8, 0x02b8, 121, false⟩, ⟨0x02d8, 0x02dd, 32, false⟩,
  ⟨0x02e1, 0x02e1, 108, false⟩, ⟨0x02e2, 0x02e2, 115, false⟩, ⟨0x02e3, 0x02e3, 120, false⟩,
  ⟨0x037a, 0x037a, 32, false⟩, ⟨0x037e, 0x037e, 59, false⟩, ⟨0x0384, 0x0385, 32, false⟩,
  ⟨0x1d2c, 0x1d2c, 65, false⟩, ⟨0x1d2e, 0x1d2e, 66, false⟩, ⟨0x1d30, 0x1d31, 68, true⟩,
  ⟨0x1d33, 0x1d3a, 71, true⟩, ⟨0x1d3c, 0x1d3c, 79, false⟩, ⟨0x1d3e, 0x1d3e, 80, false⟩,
  ⟨0x1d3f, 0x1d3f, 82, false⟩, ⟨0x1d40, 0x1d41, 84, true⟩, ⟨0x1d42, 0x1d42, 87, false⟩,
  ⟨0x1d43, 0x1d43, 97, false⟩, ⟨0x1d47, 0x1d47, 98, false⟩, ⟨0x1d48, 0x1d49, 100, true⟩,
  ⟨0x1d4d, 0x1d4d, 103, false⟩, ⟨0x1d4f, 0x1d4f, 107, false⟩, ⟨0x1d50, 0x1d50, 109, false⟩,
  ⟨0x1d52, 0x1d52, 111, false⟩, ⟨0x1d56, 0x1d56, 112, false⟩, ⟨0x1d57, 0x1d58, 116, true⟩,
  ⟨0x1d5b, 0x1d5b, 118, false⟩, ⟨0x1d62, 0x1d62, 105, false⟩, ⟨0x1d63, 0x1d63, 114, false⟩,
  ⟨0x1d64, 0x1d65, 117, true⟩, ⟨0x1d9c, 0x1d9c, 99, false⟩, ⟨0x1da0, 0x1da0, 102, false⟩,
  ⟨0x1dbb, 0x1dbb, 122, false⟩, ⟨0x1e00, 0x1e00, 65, false⟩, ⟨0x1e01, 0x1e01, 97, false⟩,
  ⟨0x1e02, 0x1e02, 66, false⟩, ⟨0x1e03, 0x1e03, 98, false⟩, ⟨0x1e04, 0x1e04, 66, false⟩,
  ⟨0x1e05, 0x1e05, 98, false⟩, ⟨0x1e06, 0x1e06, 66, false⟩, ⟨0x1e07, 0x1e07, 98, false⟩,
  ⟨0x1e08, 0x1e08, 67, false⟩, ⟨0x1e09, 0x1e09, 99, false⟩, ⟨0x1e0a, 0x1e0a, 68, false⟩,
  ⟨0x1e0b, 0x1e0b, 100, false⟩, ⟨0x1e0c, 0x1e0c, 68, false⟩, ⟨0x1e0d, 0x1e0d, 100, false⟩,
  ⟨0x1e0e, 0x1e0e, 68, false⟩, ⟨0x1e0f, 0x1e0f, 100, false⟩, ⟨0x1e10, 0x1e10, 68, false⟩,
  ⟨0x1e11, 0x1e11, 100, false⟩, ⟨0x1e12, 0x1e12, 68, false⟩, ⟨0x1e13, 0x1e13, 100, false⟩,
  ⟨0x1e14, 0x1e14, 69, false⟩, ⟨0x1e15, 0x1e15, 101, false⟩, ⟨0x1e16, 0x1e16, 69, false⟩,
  ⟨0x1e17, 0x1e17, 101, false⟩, ⟨0x1e18, 0x1e18, 69, false⟩, ⟨0x1e19, 0x1e19, 101, false⟩,
  ⟨0x1e1a, 0x1e1a, 69, false⟩, ⟨0x1e1b, 0x1e1b, 101, false⟩, ⟨0x1e1c, 0x1e1c, 69, false⟩,
  ⟨0x1e1d, 0x1e1d, 101, false⟩, ⟨0x1e1e, 0x1e1e, 70, false⟩, ⟨0x1e1f, 0x1e1f, 102, false⟩,
  ⟨0x1e20, 0x1e20, 71, false⟩, ⟨0x1e21, 0x1e21, 103, false⟩, ⟨0x1e22, 0x1e22, 72, false⟩,
  ⟨0x1e23, 0x1e23, 104, false⟩, ⟨0x1e24, 0x1e24, 72, false⟩, ⟨0x1e25, 0x1e25, 104, false⟩,
  ⟨0x1e26, 0x1e26, 72, false⟩, ⟨0x1e27, 0x1e27, 104, false⟩, ⟨0x1e28, 0x1e28, 72, false⟩,
  ⟨0x1e29, 0x1e29, 104, false⟩, ⟨0x1e2a, 0x1e2a, 72, false⟩, ⟨0x1e2b, 0x1e2b, 104, false⟩,
  ⟨0x1e2c, 0x1e2c, 73, false⟩, ⟨0x1e2d, 0x1e2d, 105, false⟩, ⟨0x1e2e, 0x1e2e, 73, false⟩,
  ⟨0x1e2f, 0x1e2f, 105, false⟩, ⟨0x1e30, 0x1e30, 75, false⟩, ⟨0x1e31, 0x1e31, 107, false⟩,
  ⟨0x1e32, 0x1e32, 75, false⟩, ⟨0x1e33, 0x1e33, 107, false⟩, ⟨0x1e34, 0x1e34, 75, false⟩,
  ⟨0x1e35, 0x1e35, 107, false⟩, ⟨0x1e36, 0x1e36, 76, false⟩, ⟨0x1e37, 0x1e37, 108, false⟩,
  ⟨0x1e38, 0x1e38, 76, false⟩, ⟨0x1e39, 0x1e39, 108, false⟩, ⟨0x1e3a, 0x1e3a, 76, false⟩,
  ⟨0x1e3b, 0x1e3b, 108, false⟩, ⟨0x1e3c, 0x1e3c, 76, false⟩, ⟨0x1e3d, 0x1e3d, 108, false⟩,
  ⟨0x1e3e, 0x1e3e, 77, false⟩, ⟨0x1e3f, 0x1e3f, 109, false⟩, ⟨0x1e40, 0x1e40, 77, false⟩,
  ⟨0x1e41, 0x1e41, 109, false⟩, ⟨0x1e42, 0x1e42, 77, false⟩, ⟨0x1e43, 0x1e43, 109, false⟩,
  ⟨0x1e44, 0x1e44, 78, false⟩, ⟨0x1e45, 0x1e45, 110, false⟩, ⟨0x1e46, 0x1e46, 78, false⟩,
  ⟨0x1e47, 0x1e47, 110, false⟩, ⟨0x1e48, 0x1e48, 78, false⟩, ⟨0x1e49, 0x1e49, 110, false⟩,
  ⟨0x1e4a, 0x1e4a, 78, false⟩, ⟨0x1e4b, 0x1e4b, 110, false⟩, ⟨0x1e4c, 0x1e4c, 79, false⟩,
  ⟨0x1e4d, 0x1e4d, 111, false⟩, ⟨0x1e4e, 0x1e4e, 79, false⟩, ⟨0x1e4f, 0x1e4f, 111, false⟩,
  ⟨0x1e50, 0x1e50, 79, false⟩, ⟨0x1e51, 0x1e51, 111, false⟩, ⟨0x1e52, 0x1e52, 79, false⟩,
  ⟨0x1e53, 0x1e53, 111, false⟩, ⟨0x1e54, 0x1e54, 80, false⟩, ⟨0x1e55, 0x1e55, 112, false⟩,
  ⟨0x1e56, 0x1e56, 80, false⟩, ⟨0x1e57, 0x1e57, 112, false⟩, ⟨0x1e58, 0x1e58, 82, false⟩,
  ⟨0x1e59, 0x1e59, 114, false⟩, ⟨0x1e5a, 0x1e5a, 82, false⟩, ⟨0x1e5b, 0x1e5b, 114, false⟩,
  ⟨0x1e5c, 0x1e5c, 82, false⟩, ⟨0x1e5d, 0x1e5d, 114, false⟩, ⟨0x1e5e, 0x1e5e, 82, false⟩,
  ⟨0x1e5f, 0x1e5f, 114, false⟩, ⟨0x1e60, 0x1e60, 83, false⟩, ⟨0x1e61, 0x1e61, 115, false⟩,
  ⟨0x1e62, 0x1e62, 83, false⟩, ⟨0x1e63, 0x1e63, 115, false⟩, ⟨0x1e64, 0x1e64, 83, false⟩,
  ⟨0x1e65, 0x1e65, 115, false⟩, ⟨0x1e66, 0x1e66, 83, false⟩, ⟨0x1e67, 0x1e67, 115, false⟩,
  ⟨0x1e68, 0x1e68, 83, false⟩, ⟨0x1e69, 0x1e69, 115, false⟩, ⟨0x1e6a, 0x1e6a, 84, false⟩,
  ⟨0x1e6b, 0x1e6b, 116, false⟩, ⟨0x1e6c, 0x1e6c, 84, false⟩, ⟨0x1e6d, 0x1e6d, 116, false⟩,
  ⟨0x1e6e, 0x1e6e, 84, false⟩, ⟨0x1e6f, 0x1e6f, 116, false⟩, ⟨0x1e70, 0x1e70, 84, false⟩,
  ⟨0x1e71, 0x1e71, 116, false⟩, ⟨0x1e72, 0x1e72, 85, false⟩, ⟨0x1e73, 0x1e73, 117, false⟩,
  ⟨0x1e74, 0x1e74, 85, false⟩, ⟨0x1e75, 0x1e75, 117, false⟩, ⟨0x1e76, 0x1e76, 85, false⟩,
  ⟨0x1e77, 0x1e77, 117, false⟩, ⟨0x1e78, 0x1e78, 85, false⟩, ⟨0x1e79, 0x1e79, 117, false⟩,
  ⟨0x1e7a, 0x1e7a, 85, false⟩, ⟨0x1e7b, 0x1e7b, 117, false⟩, ⟨0x1e7c, 0x1e7c, 86, false⟩,
  ⟨0x1e7d, 0x1e7d, 118, false⟩, ⟨0x1e7e, 0x1e7e, 86, false⟩, ⟨0x1e7f, 0x1e7f, 118, false⟩,
  ⟨0x1e80, 0x1e80, 87, false⟩, ⟨0x1e81, 0x1e81, 119, false⟩, ⟨0x1e82, 0x1e82, 87, false⟩,
  ⟨0x1e83, 0x1e83, 119, false⟩, ⟨0x1e84, 0x1e84, 87, false⟩, ⟨0x1e85, 0x1e85, 119, false⟩,
  ⟨0x1e86, 0x1e86, 87, false⟩, ⟨0x1e87, 0x1e87, 119, false⟩, ⟨0x1e88, 0x1e88, 87, false⟩,
  ⟨0x1e89, 0x1e89, 119, false⟩, ⟨0x1e8a, 0x1e8a, 88, false⟩, ⟨0x1e8b, 0x1e8b, 120, false⟩,
  ⟨0x1e8c, 0x1e8c, 88, false⟩, ⟨0x1e8d, 0x1e8d, 120, false⟩, ⟨0x1e8e, 0x1e8e, 89, false⟩,
  ⟨0x1e8f, 0x1e8f, 121, false⟩, ⟨0x1e90, 0x1e90, 90, false⟩, ⟨0x1e91, 0x1e91, 122, false⟩,
  ⟨0x1e92, 0x1e92, 90, false⟩, ⟨0x1e93, 0x1e93, 122, false⟩, ⟨0x1e94, 0x1e94, 90, false⟩,
  ⟨0x1e95, 0x1e95, 122, false⟩, ⟨0x1e96, 0x1e96, 104, false⟩, ⟨0x1e97, 0x1e97, 116, false⟩,
  ⟨0x1e98, 0x1e98, 119, false⟩, ⟨0x1e99, 0x1e99, 121, false⟩, ⟨0x1e9a, 0x1e9a, 97, false⟩,
  ⟨0x1e9b, 0x1e9b, 115, false⟩, ⟨0x1ea0, 0x1ea0, 65, false⟩, ⟨0x1ea1, 0x1ea1, 97, false⟩,
  ⟨0x1ea2, 0x1ea2, 65, false⟩, ⟨0x1ea3, 0x1ea3, 97, false⟩, ⟨0x1ea4, 0x1ea4, 65, false⟩,
  ⟨0x1ea5, 0x1ea5, 97, false⟩, ⟨0x1ea6, 0x1ea6, 65, false⟩, ⟨0x1ea7, 0x1ea7, 97, false⟩,
  ⟨0x1ea8, 0x1ea8, 65, false⟩, ⟨0x1ea9, 0x1ea9, 97, false⟩, ⟨0x1eaa, 0x1eaa, 65, false⟩,
  ⟨0x1eab, 0x1eab, 97, false⟩, ⟨0x1eac, 0x1eac, 65, false⟩, ⟨0x1ead, 0x1ead, 97, false⟩,
  ⟨0x1eae, 0x1eae, 65, false⟩, ⟨0x1eaf, 0x1eaf, 97, false⟩, ⟨0x1eb0, 0x1eb0, 65, false⟩,
  ⟨0x1eb1, 0x1eb1, 97, false⟩, ⟨0x1eb2, 0x1eb2, 65, false⟩, ⟨0x1eb3, 0x1eb3, 97, false⟩,
  ⟨0x1eb4, 0x1eb4, 65, false⟩, ⟨0x1eb5, 0x1eb5, 97, false⟩, ⟨0x1eb6, 0x1eb6, 65, false⟩,
  ⟨0x1eb7, 0x1eb7, 97, false⟩, ⟨0x1eb8, 0x1eb8, 69, false⟩, ⟨0x1eb9, 0x1eb9, 101, false⟩,
  ⟨0x1eba, 0x1eba, 69, false⟩, ⟨0x1ebb, 0x1ebb, 101, false⟩, ⟨0x1ebc, 0x1ebc, 69, false⟩,
  ⟨0x1ebd, 0x1ebd, 101, false⟩, ⟨0x1ebe, 0x1ebe, 69, false⟩, ⟨0x1ebf, 0x1ebf, 101, false⟩,
  ⟨0x1ec0, 0x1ec0, 69, false⟩, ⟨0x1ec1, 0x1ec1, 101, false⟩, ⟨0x1ec2, 0x1ec2, 69, false⟩,
  ⟨0x1ec3, 0x1ec3, 101, false⟩, ⟨0x1ec4, 0x1ec4, 69, false⟩, ⟨0x1ec5, 0x1ec5, 101, false⟩,
  ⟨0x1ec6, 0x1ec6, 69, false⟩, ⟨0x1ec7, 0x1ec7, 101, false⟩, ⟨0x1ec8, 0x1ec8, 73, false⟩,
  ⟨0x1ec9, 0x1ec9, 105, false⟩, ⟨0x1eca, 0x1eca, 73, false⟩, ⟨0x1ecb, 0x1ecb, 105, false⟩,
  ⟨0x1ecc, 0x1ecc, 79, false⟩, ⟨0x1ecd, 0x1ecd, 111, false⟩, ⟨0x1ece, 0x1ece, 79, false⟩,
  ⟨0x1ecf, 0x1ecf, 111, false⟩, ⟨0x1ed0, 0x1ed0, 79, false⟩, ⟨0x1ed1, 0x1ed1, 111, false⟩,
  ⟨0x1ed2, 0x1ed2, 79, false⟩, ⟨0x1ed3, 0x1ed3, 111, false⟩, ⟨0x1ed4, 0x1ed4, 79, false⟩,
  ⟨0x1ed5, 0x1ed5, 111, false⟩, ⟨0x1ed6, 0x1ed6, 79, false⟩, ⟨0x1ed7, 0x1ed7, 111, false⟩,
  ⟨0x1ed8, 0x1ed8, 79, false⟩, ⟨0x1ed9, 0x1ed9, 111, false⟩, ⟨0x1eda, 0x1eda, 79, false⟩,
  ⟨0x1edb, 0x1edb, 111, false⟩, ⟨0x1edc, 0x1edc, 79, false⟩, ⟨0x1edd, 0x1edd, 111, false⟩,
  ⟨0x1ede, 0x1ede, 79, false⟩, ⟨0x1edf, 0x1edf, 111, false⟩, ⟨0x1ee0, 0x1ee0, 79, false⟩,
  ⟨0x1ee1, 0x1ee1, 111, false⟩, ⟨0x1ee2, 0x1ee2, 79, false⟩, ⟨0x1ee3, 0x1ee3, 111, false⟩,
  ⟨0x1ee4, 0x1ee4, 85, false⟩, ⟨0x1ee5, 0x1ee5, 117, false⟩, ⟨0x1ee6, 0x1ee6, 85, false⟩,
  ⟨0x1ee7, 0x1ee7, 117, false⟩, ⟨0x1ee8, 0x1ee8, 85, false⟩, ⟨0x1ee9, 0x1ee9, 117, false⟩,
  ⟨0x1eea, 0x1eea, 85, false⟩, ⟨0x1eeb, 0x1eeb, 117, false⟩, ⟨0x1eec, 0x1eec, 85, false⟩,
  ⟨0x1eed, 0x1eed, 117, false⟩, ⟨0x1eee, 0x1eee, 85, false⟩, ⟨0x1eef, 0x1eef, 117, false⟩,
  ⟨0x1ef0, 0x1ef0, 85, false⟩, ⟨0x1ef1, 0x1ef1, 117, false⟩, ⟨0x1ef2, 0x1ef2, 89, false⟩,
  ⟨0x1ef3, 0x1ef3, 121, false⟩, ⟨0x1ef4, 0x1ef4, 89, false⟩, ⟨0x1ef5, 0x1ef5, 121, false⟩,
  ⟨0x1ef6, 0x1ef6, 89, false⟩, ⟨0x1ef7, 0x1ef7, 121, false⟩, ⟨0x1ef8, 0x1ef8, 89, false⟩,
  ⟨0x1ef9, 0x1ef9, 121, false⟩, ⟨0x1fbd, 0x1fbd, 32, false⟩, ⟨0x1fbf, 0x1fc1, 32, false⟩,
  ⟨0x1fcd, 0x1fcf, 32, false⟩, ⟨0x1fdd, 0x1fdf, 32, false⟩, ⟨0x1fed, 0x1fee, 32, false⟩,
  ⟨0x1fef, 0x1fef, 96, false⟩, ⟨0x1ffd, 0x1ffe, 32, false⟩, ⟨0x2000, 0x200a, 32, false⟩,
  ⟨0x2017, 0x2017, 32, false⟩, ⟨0x2024, 0x2024, 46, false⟩, ⟨0x202f, 0x202f, 32, false⟩,
  ⟨0x203e, 0x203e, 32, false⟩, ⟨0x205f, 0x205f, 32, false⟩, ⟨0x2070, 0x2070, 48, false⟩,
  ⟨0x2071, 0x2071, 105, false⟩, ⟨0x2074, 0x2079, 52, true⟩, ⟨0x207a, 0x207a, 43, false⟩,
  ⟨0x207c, 0x207c, 61, false⟩, ⟨0x207d, 0x207e, 40, true⟩, ⟨0x207f, 0x207f, 110, false⟩,
  ⟨0x2080, 0x2089, 48, true⟩, ⟨0x208a, 0x208a, 43, false⟩, ⟨0x208c, 0x208c, 61, false⟩,
  ⟨0x208d, 0x208e, 40, true⟩, ⟨0x2090, 0x2090, 97, false⟩, ⟨0x2091, 0x2091, 101, false⟩,
  ⟨0x2092, 0x2092, 111, false⟩, ⟨0x2093, 0x2093, 120, false⟩, ⟨0x2095, 0x2095, 104, false⟩,
  ⟨0x2096, 0x2099, 107, true⟩, ⟨0x209a, 0x209a, 112, false⟩, ⟨0x209b, 0x209c, 115, true⟩,
  ⟨0x2102, 0x2103, 67, false⟩, ⟨0x2109, 0x2109, 70, false⟩, ⟨0x210a, 0x210a, 103, false⟩,
  ⟨0x210b, 0x210d, 72, false⟩, ⟨0x210e, 0x210e, 104, false⟩, ⟨0x2110, 0x2111, 73, false⟩,
  ⟨0x2112, 0x2112, 76, false⟩, ⟨0x2113, 0x2113, 108, false⟩, ⟨0x2115, 0x2115, 78, false⟩,
  ⟨0x2119, 0x211b, 80, true⟩, ⟨0x211c, 0x211d, 82, false⟩, ⟨0x2124, 0x2124, 90, false⟩,
  ⟨0x2128, 0x2128, 90, false⟩, ⟨0x212a, 0x212a, 75, false⟩, ⟨0x212b, 0x212d, 65, true⟩,
  ⟨0x212f, 0x212f, 101, false⟩, ⟨0x2130, 0x2131, 69, true⟩, ⟨0x2133, 0x2133, 77, false⟩,
  ⟨0x2134, 0x2134, 111, false⟩, ⟨0x2139, 0x2139, 105, false⟩, ⟨0x2145, 0x2145, 68, false⟩,
  ⟨0x2146, 0x2147, 100, true⟩, ⟨0x2148, 0x2149, 105, true⟩, ⟨0x215f, 0x215f, 49, false⟩,
  ⟨0x2160, 0x2160, 73, false⟩, ⟨0x2164, 0x2164, 86, false⟩, ⟨0x2169, 0x2169, 88, false⟩,
  ⟨0x216c, 0x216c, 76, false⟩, ⟨0x216d, 0x216e, 67, true⟩, ⟨0x216f, 0x216f, 77, false⟩,
  ⟨0x2170, 0x2170, 105, false⟩, ⟨0x2174, 0x2174, 118, false⟩, ⟨0x2179, 0x2179, 120, false⟩,
  ⟨0x217c, 0x217c, 108, false⟩, ⟨0x217d, 0x217e, 99, true⟩, ⟨0x217f, 0x217f, 109, false⟩,
  ⟨0x2260, 0x2260, 61, false⟩, ⟨0x226e, 0x226e, 60, false⟩, ⟨0x226f, 0x226f, 62, false⟩,
  ⟨0x2460, 0x2468, 49, true⟩, ⟨0x24b6, 0x24cf, 65, true⟩, ⟨0x24d0, 0x24e9, 97, true⟩,
  ⟨0x24ea, 0x24ea, 48, false⟩, ⟨0x2c7c, 0x2c7c, 106, false⟩, ⟨0x2c7d, 0x2c7d, 86, false⟩,
  ⟨0x3000, 0x3000, 32, false⟩, ⟨0x309b, 0x309c, 32, false⟩, ⟨0x32c0, 0x32c8, 49, true⟩,
  ⟨0x3358, 0x3361, 48, true⟩, ⟨0x3382, 0x3382, 65, false⟩, ⟨0x338c, 0x338c, 70, false⟩,
  ⟨0x338d, 0x338d, 103, false⟩, ⟨0x3395, 0x3395, 108, false⟩, ⟨0x339b, 0x339b, 109, false⟩,
  ⟨0x33b2, 0x33b2, 115, false⟩, ⟨0x33b6, 0x33b6, 86, false⟩, ⟨0x33bc, 0x33bc, 87, false⟩,
  ⟨0x33c0, 0x33c0, 107, false⟩, ⟨0x33c1, 0x33c1, 77, false⟩, ⟨0x33e0, 0x33e8, 49, true⟩,
  ⟨0xa7f2, 0xa7f2, 67, false⟩, ⟨0xa7f3, 0xa7f3, 70, false⟩, ⟨0xa7f4, 0xa7f4, 81, false⟩,
  ⟨0xfb29, 0xfb29, 43, false⟩, ⟨0xfc5e, 0xfc63, 32, false⟩, ⟨0xfdfb, 0xfdfb, 32, false⟩,
  ⟨0xfe10, 0xfe10, 44, false⟩, ⟨0xfe13, 0xfe14, 58, true⟩, ⟨0xfe15, 0xfe15, 33, false⟩,
  ⟨0xfe16, 0xfe16, 63, false⟩, ⟨0xfe33, 0xfe34, 95, false⟩, ⟨0xfe35, 0xfe36, 40, true⟩,
  ⟨0xfe37, 0xfe37, 123, false⟩, ⟨0xfe38, 0xfe38, 125, false⟩, ⟨0xfe47, 0xfe47, 91, false⟩,
  ⟨0xfe48, 0xfe48, 93, false⟩, ⟨0xfe49, 0xfe4c, 32, false⟩, ⟨0xfe4d, 0xfe4f, 95, false⟩,
  ⟨0xfe50, 0xfe50, 44, false⟩, ⟨0xfe52, 0xfe52, 46, false⟩, ⟨0xfe54, 0xfe54, 59, false⟩,
  ⟨0xfe55, 0xfe55, 58, false⟩, ⟨0xfe56, 0xfe56, 63, false⟩, ⟨0xfe57, 0xfe57, 33, false⟩,
  ⟨0xfe59, 0xfe5a, 40, true⟩, ⟨0xfe5b, 0xfe5b, 123, false⟩, ⟨0xfe5c, 0xfe5c, 125, false⟩,
  ⟨0xfe5f, 0xfe5f, 35, false⟩, ⟨0xfe60, 0xfe60, 38, false⟩, ⟨0xfe61, 0xfe62, 42, true⟩,
  ⟨0xfe63, 0xfe63, 45, false⟩, ⟨0xfe64, 0xfe64, 60, false⟩, ⟨0xfe65, 0xfe65, 62, false⟩,
  ⟨0xfe66, 0xfe66, 61, false⟩, ⟨0xfe68, 0xfe68, 92, false⟩, ⟨0xfe69, 0xfe6a, 36, true⟩,
  ⟨0xfe6b, 0xfe6b, 64, false⟩, ⟨0xfe70, 0xfe70, 32, false⟩, ⟨0xfe72, 0xfe72, 32, false⟩,
  ⟨0xfe74, 0xfe74, 32, false⟩, ⟨0xfe76, 0xfe76, 32, false⟩, ⟨0xfe78, 0xfe78, 32, false⟩,
  ⟨0xfe7a, 0xfe7a, 32, false⟩, ⟨0xfe7c, 0xfe7c, 32, false⟩, ⟨0xfe7e, 0xfe7e, 32, false⟩,
  ⟨0xff01, 0xff5e, 33, true⟩, ⟨0xffe3, 0xffe3, 32, false⟩, ⟨0x107a5, 0x107a5, 113, false⟩,
  ⟨0x1d400, 0x1d419, 65, true⟩, ⟨0x1d41a, 0x1d433, 97, true⟩, ⟨0x1d434, 0x1d44d, 65, true⟩,
  ⟨0x1d44e, 0x1d454, 97, true⟩, ⟨0x1d456, 0x1d467, 105, true⟩, ⟨0x1d468, 0x1d481, 65, true⟩,
  ⟨0x1d482, 0x1d49b, 97, true⟩, ⟨0x1d49c, 0x1d49c, 65, false⟩, ⟨0x1d49e, 0x1d49f, 67, true⟩,
  ⟨0x1d4a2, 0x1d4a2, 71, false⟩, ⟨0x1d4a5, 0x1d4a6, 74, true⟩, ⟨0x1d4a9, 0x1d4ac, 78, true⟩,
  ⟨0x1d4ae, 0x1d4b5, 83, true⟩, ⟨0x1d4b6, 0x1d4b9, 97, true⟩, ⟨0x1d4bb, 0x1d4bb, 102, false⟩,
  ⟨0x1d4bd, 0x1d4c3, 104, true⟩, ⟨0x1d4c5, 0x1d4cf, 112, true⟩, ⟨0x1d4d0, 0x1d4e9, 65, true⟩,
  ⟨0x1d4ea, 0x1d503, 97, true⟩, ⟨0x1d504, 0x1d505, 65, true⟩, ⟨0x1d507, 0x1d50a, 68, true⟩,
  ⟨0x1d50d, 0x1d514, 74, true⟩, ⟨0x1d516, 0x1d51c, 83, true⟩, ⟨0x1d51e, 0x1d537, 97, true⟩,
  ⟨0x1d538, 0x1d539, 65, true⟩, ⟨0x1d53b, 0x1d53e, 68, true⟩, ⟨0x1d540, 0x1d544, 73, true⟩,
  ⟨0x1d546, 0x1d546, 79, false⟩, ⟨0x1d54a, 0x1d550, 83, true⟩, ⟨0x1d552, 0x1d56b, 97, true⟩,
  ⟨0x1d56c, 0x1d585, 65, true⟩, ⟨0x1d586, 0x1d59f, 97, true⟩, ⟨0x1d5a0, 0x1d5b9, 65, true⟩,
  ⟨0x1d5ba, 0x1d5d3, 97, true⟩, ⟨0x1d5d4, 0x1d5ed, 65, true⟩, ⟨0x1d5ee, 0x1d607, 97, true⟩,
  ⟨0x1d608, 0x1d621, 65, true⟩, ⟨0x1d622, 0x1d63b, 97, true⟩, ⟨0x1d63c, 0x1d655, 65, true⟩,
  ⟨0x1d656, 0x1d66f, 97, true⟩, ⟨0x1d670, 0x1d689, 65, true⟩, ⟨0x1d68a, 0x1d6a3, 97, true⟩,
  ⟨0x1d7ce, 0x1d7d7, 48, true⟩, ⟨0x1d7d8, 0x1d7e1, 48, true⟩, ⟨0x1d7e2, 0x1d7eb, 48, true⟩,
  ⟨0x1d7ec, 0x1d7f5, 48, true⟩, ⟨0x1d7f6, 0x1d7ff, 48, true⟩, ⟨0x1f12a, 0x1f12a, 83, false⟩,
  ⟨0x1f12b, 0x1f12b, 67, false⟩, ⟨0x1f12c, 0x1f12c, 82, false⟩, ⟨0x1f130, 0x1f149, 65, true⟩,
  ⟨0x1fbf0, 0x1fbf9, 48, true⟩]

def foldExpansions : List (Nat × String) :=
  [(0x00bc, "14"), (0x00bd, "12"), (0x00be, "34"), (0x0132, "IJ"), (0x0133, "ij"),
  (0x01c4, "DZ"), (0x01c5, "Dz"), (0x01c6, "dz"), (0x01c7, "LJ"), (0x01c8, "Lj"), (0x01c9, "lj"),
  (0x01ca, "NJ"), (0x01cb, "Nj"), (0x01cc, "nj"), (0x01f1, "DZ"), (0x01f2, "Dz"), (0x01f3, "dz"),
  (0x2025, ".."), (0x2026, "..."), (0x203c, "!!"), (0x2047, "??"), (0x2048, "?!"),
  (0x2049, "!?"), (0x20a8, "Rs"), (0x2100, "a/c"), (0x2101, "a/s"), (0x2105, "c/o"),
  (0x2106, "c/u"), (0x2116, "No"), (0x2120, "SM"), (0x2121, "TEL"), (0x2122, "TM"),
  (0x213b, "FAX"), (0x2150, "17"), (0x2151, "19"), (0x2152, "110"), (0x2153, "13"),
  (0x2154, "23"), (0x2155, "15"), (0x2156, "25"), (0x2157, "35"), (0x2158, "45"), (0x2159, "16"),
  (0x215a, "56"), (0x215b, "18"), (0x215c, "38"), (0x215d, "58"), (0x215e, "78"), (0x2161, "II"),
  (0x2162, "III"), (0x2163, "IV"), (0x2165, "VI"), (0x2166, "VII"), (0x2167, "VIII"),
  (0x2168, "IX"), (0x216a, "XI"), (0x216b, "XII"), (0x2171, "ii"), (0x2172, "iii"),
  (0x2173, "iv"), (0x2175, "vi"), (0x2176, "vii"), (0x2177, "viii"), (0x2178, "ix"),
  (0x217a, "xi"), (0x217b, "xii"), (0x2189, "03"), (0x2469, "10"), (0x246a, "11"),
  (0x246b, "12"), (0x246c, "13"), (0x246d, "14"), (0x246e, "15"), (0x246f, "16"), (0x2470, "17"),
  (0x2471, "18"), (0x2472, "19"), (0x2473, "20"), (0x2474, "(1)"), (0x2475, "(2)"),
  (0x2476, "(3)"), (0x2477, "(4)"), (0x2478, "(5)"), (0x2479, "(6)"), (0x247a, "(7)"),
  (0x247b, "(8)"), (0x247c, "(9)"), (0x247d, "(10)"), (0x247e, "(11)"), (0x247f, "(12)"),
  (0x2480, "(13)"), (0x2481, "(14)"), (0x2482, "(15)"), (0x2483, "(16)"), (0x2484, "(17)"),
  (0x2485, "(18)"), (0x2486, "(19)"), (0x2487, "(20)"), (0x2488, "1."), (0x2489, "2."),
  (0x248a, "3."), (0x248b, "4."), (0x248c, "5."), (0x248d, "6."), (0x248e, "7."), (0x248f, "8."),
  (0x2490, "9."), (0x2491, "10."), (0x2492, "11."), (0x2493, "12."), (0x2494, "13."),
  (0x2495, "14."), (0x2496, "15."), (0x2497, "16."), (0x2498, "17."), (0x2499, "18."),
  (0x249a, "19."), (0x249b, "20."), (0x249c, "(a)"), (0x249d, "(b)"), (0x249e, "(c)"),
  (0x249f, "(d)"), (0x24a0, "(e)"), (0x24a1, "(f)"), (0x24a2, "(g)"), (0x24a3, "(h)"),
  (0x24a4, "(i)"), (0x24a5, "(j)"), (0x24a6, "(k)"), (0x24a7, "(l)"), (0x24a8, "(m)"),
  (0x24a9, "(n)"), (0x24aa, "(o)"), (0x24ab, "(p)"), (0x24ac, "(q)"), (0x24ad, "(r)"),
  (0x24ae, "(s)"), (0x24af, "(t)"), (0x24b0, "(u)"), (0x24b1, "(v)"), (0x24b2, "(w)"),
  (0x24b3, "(x)"), (0x24b4, "(y)"), (0x24b5, "(z)"), (0x2a74, "::="), (0x2a75, "=="),
  (0x2a76, "==="), (0x3200, "()"), (0x3201, "()"), (0x3202, "()"), (0x3203, "()"),
  (0x3204, "()"), (0x3205, "()"), (0x3206, "()"), (0x3207, "()"), (0x3208, "()"), (0x3209, "()"),
  (0x320a, "()"), (0x320b, "()"), (0x320c, "()"), (0x320d, "()"), (0x320e, "()"), (0x320f, "()"),
  (0x3210, "()"), (0x3211, "()"), (0x3212, "()"), (0x3213, "()"), (0x3214, "()"), (0x3215, "()"),
  (0x3216, "()"), (0x3217, "()"), (0x3218, "()"), (0x3219, "()"), (0x321a, "()"), (0x321b, "()"),
  (0x321c, "()"), (0x321d, "()"), (0x321e, "()"), (0x3220, "()"), (0x3221, "()"), (0x3222, "()"),
  (0x3223, "()"), (0x3224, "()"), (0x3225, "()"), (0x3226, "()"), (0x3227, "()"), (0x3228, "()"),
  (0x3229, "()"), (0x322a, "()"), (0x322b, "()"), (0x322c, "()"), (0x322d, "()"), (0x322e, "()"),
  (0x322f, "()"), (0x3230, "()"), (0x3231, "()"), (0x3232, "()"), (0x3233, "()"), (0x3234, "()"),
  (0x3235, "()"), (0x3236, "()"), (0x3237, "()"), (0x3238, "()"), (0x3239, "()"), (0x323a, "()"),
  (0x323b, "()"), (0x323c, "()"), (0x323d, "()"), (0x323e, "()"), (0x323f, "()"), (0x3240, "()"),
  (0x3241, "()"), (0x3242, "()"), (0x3243, "()"), (0x3250, "PTE"), (0x3251, "21"),
  (0x3252, "22"), (0x3253, "23"), (0x3254, "24"), (0x3255, "25"), (0x3256, "26"), (0x3257, "27"),
  (0x3258, "28"), (0x3259, "29"), (0x325a, "30"), (0x325b, "31"), (0x325c, "32"), (0x325d, "33"),
  (0x325e, "34"), (0x325f, "35"), (0x32b1, "36"), (0x32b2, "37"), (0x32b3, "38"), (0x32b4, "39"),
  (0x32b5, "40"), (0x32b6, "41"), (0x32b7, "42"), (0x32b8, "43"), (0x32b9, "44"), (0x32ba, "45"),
  (0x32bb, "46"), (0x32bc, "47"), (0x32bd, "48"), (0x32be, "49"), (0x32bf, "50"), (0x32c9, "10"),
  (0x32ca, "11"), (0x32cb, "12"), (0x32cc, "Hg"), (0x32cd, "erg"), (0x32ce, "eV"),
  (0x32cf, "LTD"), (0x3362, "10"), (0x3363, "11"), (0x3364, "12"), (0x3365, "13"),
  (0x3366, "14"), (0x3367, "15"), (0x3368, "16"), (0x3369, "17"), (0x336a, "18"), (0x336b, "19"),
  (0x336c, "20"), (0x336d, "21"), (0x336e, "22"), (0x336f, "23"), (0x3370, "24"),
  (0x3371, "hPa"), (0x3372, "da"), (0x3373, "AU"), (0x3374, "bar"), (0x3375, "oV"),
  (0x3376, "pc"), (0x3377, "dm"), (0x3378, "dm2"), (0x3379, "dm3"), (0x337a, "IU"),
  (0x3380, "pA"), (0x3381, "nA"), (0x3383, "mA"), (0x3384, "kA"), (0x3385, "KB"), (0x3386, "MB"),
  (0x3387, "GB"), (0x3388, "cal"), (0x3389, "kcal"), (0x338a, "pF"), (0x338b, "nF"),
  (0x338e, "mg"), (0x338f, "kg"), (0x3390, "Hz"), (0x3391, "kHz"), (0x3392, "MHz"),
  (0x3393, "GHz"), (0x3394, "THz"), (0x3396, "ml"), (0x3397, "dl"), (0x3398, "kl"),
  (0x3399, "fm"), (0x339a, "nm"), (0x339c, "mm"), (0x339d, "cm"), (0x339e, "km"),
  (0x339f, "mm2"), (0x33a0, "cm2"), (0x33a1, "m2"), (0x33a2, "km2"), (0x33a3, "mm3"),
  (0x33a4, "cm3"), (0x33a5, "m3"), (0x33a6, "km3"), (0x33a7, "ms"), (0x33a8, "ms2"),
  (0x33a9, "Pa"), (0x33aa, "kPa"), (0x33ab, "MPa"), (0x33ac, "GPa"), (0x33ad, "rad"),
  (0x33ae, "rads"), (0x33af, "rads2"), (0x33b0, "ps"), (0x33b1, "ns"), (0x33b3, "ms"),
  (0x33b4, "pV"), (0x33b5, "nV"), (0x33b7, "mV"), (0x33b8, "kV"), (0x33b9, "MV"), (0x33ba, "pW"),
  (0x33bb, "nW"), (0x33bd, "mW"), (0x33be, "kW"), (0x33bf, "MW"), (0x33c2, "a.m."),
  (0x33c3, "Bq"), (0x33c4, "cc"), (0x33c5, "cd"), (0x33c6, "Ckg"), (0x33c7, "Co."),
  (0x33c8, "dB"), (0x33c9, "Gy"), (0x33ca, "ha"), (0x33cb, "HP"), (0x33cc, "in"), (0x33cd, "KK"),
  (0x33ce, "KM"), (0x33cf, "kt"), (0x33d0, "lm"), (0x33d1, "ln"), (0x33d2, "log"),
  (0x33d3, "lx"), (0x33d4, "mb"), (0x33d5, "mil"), (0x33d6, "mol"), (0x33d7, "PH"),
  (0x33d8, "p.m."), (0x33d9, "PPM"), (0x33da, "PR"), (0x33db, "sr"), (0x33dc, "Sv"),
  (0x33dd, "Wb"), (0x33de, "Vm"), (0x33df, "Am"), (0x33e9, "10"), (0x33ea, "11"), (0x33eb, "12"),
  (0x33ec, "13"), (0x33ed, "14"), (0x33ee, "15"), (0x33ef, "16"), (0x33f0, "17"), (0x33f1, "18"),
  (0x33f2, "19"), (0x33f3, "20"), (0x33f4, "21"), (0x33f5, "22"), (0x33f6, "23"), (0x33f7, "24"),
  (0x33f8, "25"), (0x33f9, "26"), (0x33fa, "27"), (0x33fb, "28"), (0x33fc, "29"), (0x33fd, "30"),
  (0x33fe, "31"), (0x33ff, "gal"), (0xfb00, "ff"), (0xfb01, "fi"), (0xfb02, "fl"),
  (0xfb03, "ffi"), (0xfb04, "ffl"), (0xfb05, "st"), (0xfb06, "st"), (0xfdfa, "   "),
  (0xfe19, "..."), (0xfe30, ".."), (0x1f100, "0."), (0x1f101, "0,"), (0x1f102, "1,"),
  (0x1f103, "2,"), (0x1f104, "3,"), (0x1f105, "4,"), (0x1f106, "5,"), (0x1f107, "6,"),
  (0x1f108, "7,"), (0x1f109, "8,"), (0x1f10a, "9,"), (0x1f110, "(A)"), (0x1f111, "(B)"),
  (0x1f112, "(C)"), (0x1f113, "(D)"), (0x1f114, "(E)"), (0x1f115, "(F)"), (0x1f116, "(G)"),
  (0x1f117, "(H)"), (0x1f118, "(I)"), (0x1f119, "(J)"), (0x1f11a, "(K)"), (0x1f11b, "(L)"),
  (0x1f11c, "(M)"), (0x1f11d, "(N)"), (0x1f11e, "(O)"), (0x1f11f, "(P)"), (0x1f120, "(Q)"),
  (0x1f121, "(R)"), (0x1f122, "(S)"), (0x1f123, "(T)"), (0x1f124, "(U)"), (0x1f125, "(V)"),
  (0x1f126, "(W)"), (0x1f127, "(X)"), (0x1f128, "(Y)"), (0x1f129, "(Z)"), (0x1f12d, "CD"),
  (0x1f12e, "WZ"), (0x1f14a, "HV"), (0x1f14b, "MV"), (0x1f14c, "SD"), (0x1f14d, "SS"),
  (0x1f14e, "PPV"), (0x1f14f, "WC"), (0x1f16a, "MC"), (0x1f16b, "MD"), (0x1f16c, "MR"),
  (0x1f190, "DJ")]

end Stencil.Text
