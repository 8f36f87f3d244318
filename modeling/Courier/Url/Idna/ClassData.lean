/-!
# Classes of characters in names

The data of normalization and of the checks on labels: words of hexadecimal numbers with dots
between them. Ranges are given by their first and last character; characters that no name may have
after the mapping may belong to any of them.
-/

namespace Courier.Url.Idna

/-- Composed characters, each with the two that it is composed of. -/
def compositions : String :=
  "c0.41.300 c1.41.301 c2.41.302 c3.41.303 c4.41.308 c5.41.30a c7.43.327 c8.45.300 c9.45.301
ca.45.302 cb.45.308 cc.49.300 cd.49.301 ce.49.302 cf.49.308 d1.4e.303 d2.4f.300 d3.4f.301
d4.4f.302 d5.4f.303 d6.4f.308 d9.55.300 da.55.301 db.55.302 dc.55.308 dd.59.301 e0.61.300
e1.61.301 e2.61.302 e3.61.303 e4.61.308 e5.61.30a e7.63.327 e8.65.300 e9.65.301 ea.65.302
eb.65.308 ec.69.300 ed.69.301 ee.69.302 ef.69.308 f1.6e.303 f2.6f.300 f3.6f.301 f4.6f.302
f5.6f.303 f6.6f.308 f9.75.300 fa.75.301 fb.75.302 fc.75.308 fd.79.301 ff.79.308 100.41.304
101.61.304 102.41.306 103.61.306 104.41.328 105.61.328 106.43.301 107.63.301 108.43.302 109.63.302
10a.43.307 10b.63.307 10c.43.30c 10d.63.30c 10e.44.30c 10f.64.30c 112.45.304 113.65.304 114.45.306
115.65.306 116.45.307 117.65.307 118.45.328 119.65.328 11a.45.30c 11b.65.30c 11c.47.302 11d.67.302
11e.47.306 11f.67.306 120.47.307 121.67.307 122.47.327 123.67.327 124.48.302 125.68.302 128.49.303
129.69.303 12a.49.304 12b.69.304 12c.49.306 12d.69.306 12e.49.328 12f.69.328 130.49.307 134.4a.302
135.6a.302 136.4b.327 137.6b.327 139.4c.301 13a.6c.301 13b.4c.327 13c.6c.327 13d.4c.30c 13e.6c.30c
143.4e.301 144.6e.301 145.4e.327 146.6e.327 147.4e.30c 148.6e.30c 14c.4f.304 14d.6f.304 14e.4f.306
14f.6f.306 150.4f.30b 151.6f.30b 154.52.301 155.72.301 156.52.327 157.72.327 158.52.30c 159.72.30c
15a.53.301 15b.73.301 15c.53.302 15d.73.302 15e.53.327 15f.73.327 160.53.30c 161.73.30c 162.54.327
163.74.327 164.54.30c 165.74.30c 168.55.303 169.75.303 16a.55.304 16b.75.304 16c.55.306 16d.75.306
16e.55.30a 16f.75.30a 170.55.30b 171.75.30b 172.55.328 173.75.328 174.57.302 175.77.302 176.59.302
177.79.302 178.59.308 179.5a.301 17a.7a.301 17b.5a.307 17c.7a.307 17d.5a.30c 17e.7a.30c 1a0.4f.31b
1a1.6f.31b 1af.55.31b 1b0.75.31b 1cd.41.30c 1ce.61.30c 1cf.49.30c 1d0.69.30c 1d1.4f.30c 1d2.6f.30c
1d3.55.30c 1d4.75.30c 1d5.dc.304 1d6.fc.304 1d7.dc.301 1d8.fc.301 1d9.dc.30c 1da.fc.30c 1db.dc.300
1dc.fc.300 1de.c4.304 1df.e4.304 1e0.226.304 1e1.227.304 1e2.c6.304 1e3.e6.304 1e6.47.30c
1e7.67.30c 1e8.4b.30c 1e9.6b.30c 1ea.4f.328 1eb.6f.328 1ec.1ea.304 1ed.1eb.304 1ee.1b7.30c
1ef.292.30c 1f0.6a.30c 1f4.47.301 1f5.67.301 1f8.4e.300 1f9.6e.300 1fa.c5.301 1fb.e5.301
1fc.c6.301 1fd.e6.301 1fe.d8.301 1ff.f8.301 200.41.30f 201.61.30f 202.41.311 203.61.311 204.45.30f
205.65.30f 206.45.311 207.65.311 208.49.30f 209.69.30f 20a.49.311 20b.69.311 20c.4f.30f 20d.6f.30f
20e.4f.311 20f.6f.311 210.52.30f 211.72.30f 212.52.311 213.72.311 214.55.30f 215.75.30f 216.55.311
217.75.311 218.53.326 219.73.326 21a.54.326 21b.74.326 21e.48.30c 21f.68.30c 226.41.307 227.61.307
228.45.327 229.65.327 22a.d6.304 22b.f6.304 22c.d5.304 22d.f5.304 22e.4f.307 22f.6f.307
230.22e.304 231.22f.304 232.59.304 233.79.304 385.a8.301 386.391.301 388.395.301 389.397.301
38a.399.301 38c.39f.301 38e.3a5.301 38f.3a9.301 390.3ca.301 3aa.399.308 3ab.3a5.308 3ac.3b1.301
3ad.3b5.301 3ae.3b7.301 3af.3b9.301 3b0.3cb.301 3ca.3b9.308 3cb.3c5.308 3cc.3bf.301 3cd.3c5.301
3ce.3c9.301 3d3.3d2.301 3d4.3d2.308 400.415.300 401.415.308 403.413.301 407.406.308 40c.41a.301
40d.418.300 40e.423.306 419.418.306 439.438.306 450.435.300 451.435.308 453.433.301 457.456.308
45c.43a.301 45d.438.300 45e.443.306 476.474.30f 477.475.30f 4c1.416.306 4c2.436.306 4d0.410.306
4d1.430.306 4d2.410.308 4d3.430.308 4d6.415.306 4d7.435.306 4da.4d8.308 4db.4d9.308 4dc.416.308
4dd.436.308 4de.417.308 4df.437.308 4e2.418.304 4e3.438.304 4e4.418.308 4e5.438.308 4e6.41e.308
4e7.43e.308 4ea.4e8.308 4eb.4e9.308 4ec.42d.308 4ed.44d.308 4ee.423.304 4ef.443.304 4f0.423.308
4f1.443.308 4f2.423.30b 4f3.443.30b 4f4.427.308 4f5.447.308 4f8.42b.308 4f9.44b.308 622.627.653
623.627.654 624.648.654 625.627.655 626.64a.654 6c0.6d5.654 6c2.6c1.654 6d3.6d2.654 929.928.93c
931.930.93c 934.933.93c 9cb.9c7.9be 9cc.9c7.9d7 b48.b47.b56 b4b.b47.b3e b4c.b47.b57 b94.b92.bd7
bca.bc6.bbe bcb.bc7.bbe bcc.bc6.bd7 c48.c46.c56 cc0.cbf.cd5 cc7.cc6.cd5 cc8.cc6.cd6 cca.cc6.cc2
ccb.cca.cd5 d4a.d46.d3e d4b.d47.d3e d4c.d46.d57 dda.dd9.dca ddc.dd9.dcf ddd.ddc.dca dde.dd9.ddf
1026.1025.102e 1b06.1b05.1b35 1b08.1b07.1b35 1b0a.1b09.1b35 1b0c.1b0b.1b35 1b0e.1b0d.1b35
1b12.1b11.1b35 1b3b.1b3a.1b35 1b3d.1b3c.1b35 1b40.1b3e.1b35 1b41.1b3f.1b35 1b43.1b42.1b35
1e00.41.325 1e01.61.325 1e02.42.307 1e03.62.307 1e04.42.323 1e05.62.323 1e06.42.331 1e07.62.331
1e08.c7.301 1e09.e7.301 1e0a.44.307 1e0b.64.307 1e0c.44.323 1e0d.64.323 1e0e.44.331 1e0f.64.331
1e10.44.327 1e11.64.327 1e12.44.32d 1e13.64.32d 1e14.112.300 1e15.113.300 1e16.112.301
1e17.113.301 1e18.45.32d 1e19.65.32d 1e1a.45.330 1e1b.65.330 1e1c.228.306 1e1d.229.306 1e1e.46.307
1e1f.66.307 1e20.47.304 1e21.67.304 1e22.48.307 1e23.68.307 1e24.48.323 1e25.68.323 1e26.48.308
1e27.68.308 1e28.48.327 1e29.68.327 1e2a.48.32e 1e2b.68.32e 1e2c.49.330 1e2d.69.330 1e2e.cf.301
1e2f.ef.301 1e30.4b.301 1e31.6b.301 1e32.4b.323 1e33.6b.323 1e34.4b.331 1e35.6b.331 1e36.4c.323
1e37.6c.323 1e38.1e36.304 1e39.1e37.304 1e3a.4c.331 1e3b.6c.331 1e3c.4c.32d 1e3d.6c.32d
1e3e.4d.301 1e3f.6d.301 1e40.4d.307 1e41.6d.307 1e42.4d.323 1e43.6d.323 1e44.4e.307 1e45.6e.307
1e46.4e.323 1e47.6e.323 1e48.4e.331 1e49.6e.331 1e4a.4e.32d 1e4b.6e.32d 1e4c.d5.301 1e4d.f5.301
1e4e.d5.308 1e4f.f5.308 1e50.14c.300 1e51.14d.300 1e52.14c.301 1e53.14d.301 1e54.50.301
1e55.70.301 1e56.50.307 1e57.70.307 1e58.52.307 1e59.72.307 1e5a.52.323 1e5b.72.323 1e5c.1e5a.304
1e5d.1e5b.304 1e5e.52.331 1e5f.72.331 1e60.53.307 1e61.73.307 1e62.53.323 1e63.73.323 1e64.15a.307
1e65.15b.307 1e66.160.307 1e67.161.307 1e68.1e62.307 1e69.1e63.307 1e6a.54.307 1e6b.74.307
1e6c.54.323 1e6d.74.323 1e6e.54.331 1e6f.74.331 1e70.54.32d 1e71.74.32d 1e72.55.324 1e73.75.324
1e74.55.330 1e75.75.330 1e76.55.32d 1e77.75.32d 1e78.168.301 1e79.169.301 1e7a.16a.308
1e7b.16b.308 1e7c.56.303 1e7d.76.303 1e7e.56.323 1e7f.76.323 1e80.57.300 1e81.77.300 1e82.57.301
1e83.77.301 1e84.57.308 1e85.77.308 1e86.57.307 1e87.77.307 1e88.57.323 1e89.77.323 1e8a.58.307
1e8b.78.307 1e8c.58.308 1e8d.78.308 1e8e.59.307 1e8f.79.307 1e90.5a.302 1e91.7a.302 1e92.5a.323
1e93.7a.323 1e94.5a.331 1e95.7a.331 1e96.68.331 1e97.74.308 1e98.77.30a 1e99.79.30a 1e9b.17f.307
1ea0.41.323 1ea1.61.323 1ea2.41.309 1ea3.61.309 1ea4.c2.301 1ea5.e2.301 1ea6.c2.300 1ea7.e2.300
1ea8.c2.309 1ea9.e2.309 1eaa.c2.303 1eab.e2.303 1eac.1ea0.302 1ead.1ea1.302 1eae.102.301
1eaf.103.301 1eb0.102.300 1eb1.103.300 1eb2.102.309 1eb3.103.309 1eb4.102.303 1eb5.103.303
1eb6.1ea0.306 1eb7.1ea1.306 1eb8.45.323 1eb9.65.323 1eba.45.309 1ebb.65.309 1ebc.45.303
1ebd.65.303 1ebe.ca.301 1ebf.ea.301 1ec0.ca.300 1ec1.ea.300 1ec2.ca.309 1ec3.ea.309 1ec4.ca.303
1ec5.ea.303 1ec6.1eb8.302 1ec7.1eb9.302 1ec8.49.309 1ec9.69.309 1eca.49.323 1ecb.69.323
1ecc.4f.323 1ecd.6f.323 1ece.4f.309 1ecf.6f.309 1ed0.d4.301 1ed1.f4.301 1ed2.d4.300 1ed3.f4.300
1ed4.d4.309 1ed5.f4.309 1ed6.d4.303 1ed7.f4.303 1ed8.1ecc.302 1ed9.1ecd.302 1eda.1a0.301
1edb.1a1.301 1edc.1a0.300 1edd.1a1.300 1ede.1a0.309 1edf.1a1.309 1ee0.1a0.303 1ee1.1a1.303
1ee2.1a0.323 1ee3.1a1.323 1ee4.55.323 1ee5.75.323 1ee6.55.309 1ee7.75.309 1ee8.1af.301
1ee9.1b0.301 1eea.1af.300 1eeb.1b0.300 1eec.1af.309 1eed.1b0.309 1eee.1af.303 1eef.1b0.303
1ef0.1af.323 1ef1.1b0.323 1ef2.59.300 1ef3.79.300 1ef4.59.323 1ef5.79.323 1ef6.59.309 1ef7.79.309
1ef8.59.303 1ef9.79.303 1f00.3b1.313 1f01.3b1.314 1f02.1f00.300 1f03.1f01.300 1f04.1f00.301
1f05.1f01.301 1f06.1f00.342 1f07.1f01.342 1f08.391.313 1f09.391.314 1f0a.1f08.300 1f0b.1f09.300
1f0c.1f08.301 1f0d.1f09.301 1f0e.1f08.342 1f0f.1f09.342 1f10.3b5.313 1f11.3b5.314 1f12.1f10.300
1f13.1f11.300 1f14.1f10.301 1f15.1f11.301 1f18.395.313 1f19.395.314 1f1a.1f18.300 1f1b.1f19.300
1f1c.1f18.301 1f1d.1f19.301 1f20.3b7.313 1f21.3b7.314 1f22.1f20.300 1f23.1f21.300 1f24.1f20.301
1f25.1f21.301 1f26.1f20.342 1f27.1f21.342 1f28.397.313 1f29.397.314 1f2a.1f28.300 1f2b.1f29.300
1f2c.1f28.301 1f2d.1f29.301 1f2e.1f28.342 1f2f.1f29.342 1f30.3b9.313 1f31.3b9.314 1f32.1f30.300
1f33.1f31.300 1f34.1f30.301 1f35.1f31.301 1f36.1f30.342 1f37.1f31.342 1f38.399.313 1f39.399.314
1f3a.1f38.300 1f3b.1f39.300 1f3c.1f38.301 1f3d.1f39.301 1f3e.1f38.342 1f3f.1f39.342 1f40.3bf.313
1f41.3bf.314 1f42.1f40.300 1f43.1f41.300 1f44.1f40.301 1f45.1f41.301 1f48.39f.313 1f49.39f.314
1f4a.1f48.300 1f4b.1f49.300 1f4c.1f48.301 1f4d.1f49.301 1f50.3c5.313 1f51.3c5.314 1f52.1f50.300
1f53.1f51.300 1f54.1f50.301 1f55.1f51.301 1f56.1f50.342 1f57.1f51.342 1f59.3a5.314 1f5b.1f59.300
1f5d.1f59.301 1f5f.1f59.342 1f60.3c9.313 1f61.3c9.314 1f62.1f60.300 1f63.1f61.300 1f64.1f60.301
1f65.1f61.301 1f66.1f60.342 1f67.1f61.342 1f68.3a9.313 1f69.3a9.314 1f6a.1f68.300 1f6b.1f69.300
1f6c.1f68.301 1f6d.1f69.301 1f6e.1f68.342 1f6f.1f69.342 1f70.3b1.300 1f72.3b5.300 1f74.3b7.300
1f76.3b9.300 1f78.3bf.300 1f7a.3c5.300 1f7c.3c9.300 1f80.1f00.345 1f81.1f01.345 1f82.1f02.345
1f83.1f03.345 1f84.1f04.345 1f85.1f05.345 1f86.1f06.345 1f87.1f07.345 1f88.1f08.345 1f89.1f09.345
1f8a.1f0a.345 1f8b.1f0b.345 1f8c.1f0c.345 1f8d.1f0d.345 1f8e.1f0e.345 1f8f.1f0f.345 1f90.1f20.345
1f91.1f21.345 1f92.1f22.345 1f93.1f23.345 1f94.1f24.345 1f95.1f25.345 1f96.1f26.345 1f97.1f27.345
1f98.1f28.345 1f99.1f29.345 1f9a.1f2a.345 1f9b.1f2b.345 1f9c.1f2c.345 1f9d.1f2d.345 1f9e.1f2e.345
1f9f.1f2f.345 1fa0.1f60.345 1fa1.1f61.345 1fa2.1f62.345 1fa3.1f63.345 1fa4.1f64.345 1fa5.1f65.345
1fa6.1f66.345 1fa7.1f67.345 1fa8.1f68.345 1fa9.1f69.345 1faa.1f6a.345 1fab.1f6b.345 1fac.1f6c.345
1fad.1f6d.345 1fae.1f6e.345 1faf.1f6f.345 1fb0.3b1.306 1fb1.3b1.304 1fb2.1f70.345 1fb3.3b1.345
1fb4.3ac.345 1fb6.3b1.342 1fb7.1fb6.345 1fb8.391.306 1fb9.391.304 1fba.391.300 1fbc.391.345
1fc1.a8.342 1fc2.1f74.345 1fc3.3b7.345 1fc4.3ae.345 1fc6.3b7.342 1fc7.1fc6.345 1fc8.395.300
1fca.397.300 1fcc.397.345 1fcd.1fbf.300 1fce.1fbf.301 1fcf.1fbf.342 1fd0.3b9.306 1fd1.3b9.304
1fd2.3ca.300 1fd6.3b9.342 1fd7.3ca.342 1fd8.399.306 1fd9.399.304 1fda.399.300 1fdd.1ffe.300
1fde.1ffe.301 1fdf.1ffe.342 1fe0.3c5.306 1fe1.3c5.304 1fe2.3cb.300 1fe4.3c1.313 1fe5.3c1.314
1fe6.3c5.342 1fe7.3cb.342 1fe8.3a5.306 1fe9.3a5.304 1fea.3a5.300 1fec.3a1.314 1fed.a8.300
1ff2.1f7c.345 1ff3.3c9.345 1ff4.3ce.345 1ff6.3c9.342 1ff7.1ff6.345 1ff8.39f.300 1ffa.3a9.300
1ffc.3a9.345 219a.2190.338 219b.2192.338 21ae.2194.338 21cd.21d0.338 21ce.21d4.338 21cf.21d2.338
2204.2203.338 2209.2208.338 220c.220b.338 2224.2223.338 2226.2225.338 2241.223c.338 2244.2243.338
2247.2245.338 2249.2248.338 2260.3d.338 2262.2261.338 226d.224d.338 226e.3c.338 226f.3e.338
2270.2264.338 2271.2265.338 2274.2272.338 2275.2273.338 2278.2276.338 2279.2277.338 2280.227a.338
2281.227b.338 2284.2282.338 2285.2283.338 2288.2286.338 2289.2287.338 22ac.22a2.338 22ad.22a8.338
22ae.22a9.338 22af.22ab.338 22e0.227c.338 22e1.227d.338 22e2.2291.338 22e3.2292.338 22ea.22b2.338
22eb.22b3.338 22ec.22b4.338 22ed.22b5.338 304c.304b.3099 304e.304d.3099 3050.304f.3099
3052.3051.3099 3054.3053.3099 3056.3055.3099 3058.3057.3099 305a.3059.3099 305c.305b.3099
305e.305d.3099 3060.305f.3099 3062.3061.3099 3065.3064.3099 3067.3066.3099 3069.3068.3099
3070.306f.3099 3071.306f.309a 3073.3072.3099 3074.3072.309a 3076.3075.3099 3077.3075.309a
3079.3078.3099 307a.3078.309a 307c.307b.3099 307d.307b.309a 3094.3046.3099 309e.309d.3099
30ac.30ab.3099 30ae.30ad.3099 30b0.30af.3099 30b2.30b1.3099 30b4.30b3.3099 30b6.30b5.3099
30b8.30b7.3099 30ba.30b9.3099 30bc.30bb.3099 30be.30bd.3099 30c0.30bf.3099 30c2.30c1.3099
30c5.30c4.3099 30c7.30c6.3099 30c9.30c8.3099 30d0.30cf.3099 30d1.30cf.309a 30d3.30d2.3099
30d4.30d2.309a 30d6.30d5.3099 30d7.30d5.309a 30d9.30d8.3099 30da.30d8.309a 30dc.30db.3099
30dd.30db.309a 30f4.30a6.3099 30f7.30ef.3099 30f8.30f0.3099 30f9.30f1.3099 30fa.30f2.3099
30fe.30fd.3099 105c9.105d2.307 105e4.105da.307 1109a.11099.110ba 1109c.1109b.110ba
110ab.110a5.110ba 1112e.11131.11127 1112f.11132.11127 1134b.11347.1133e 1134c.11347.11357
11383.11382.113c9 11385.11384.113bb 1138e.1138b.113c2 11391.11390.113c9 113c5.113c2.113c2
113c7.113c2.113b8 113c8.113c2.113c9 114bb.114b9.114ba 114bc.114b9.114b0 114be.114b9.114bd
115ba.115b8.115af 115bb.115b9.115af 11938.11935.11930 16121.1611e.1611e 16122.1611e.16129
16123.1611e.1611f 16124.16129.1611f 16125.1611e.16120 16126.16121.1611f 16127.16122.1611f
16128.16121.16120 16d68.16d67.16d67 16d69.16d63.16d67 16d6a.16d69.16d67"

/-- Ranges of combining characters, with their class. -/
def combiningRanges : String :=
  "300.314.e6 315.315.e8 316.319.dc 31a.31a.e8 31b.31b.d8 31c.320.dc 321.322.ca 323.326.dc 327.328.ca
329.333.dc 334.338.1 339.33c.dc 33d.346.e6 347.349.dc 34a.34c.e6 34d.34e.dc 350.352.e6 353.356.dc
357.357.e6 358.358.e8 359.35a.dc 35b.35b.e6 35c.35c.e9 35d.35e.ea 35f.35f.e9 360.361.ea 362.362.e9
363.36f.e6 483.487.e6 591.591.dc 592.595.e6 596.596.dc 597.599.e6 59a.59a.de 59b.59b.dc 59c.5a1.e6
5a2.5a7.dc 5a8.5a9.e6 5aa.5aa.dc 5ab.5ac.e6 5ad.5ad.de 5ae.5ae.e4 5af.5af.e6 5b0.5b0.a 5b1.5b1.b
5b2.5b2.c 5b3.5b3.d 5b4.5b4.e 5b5.5b5.f 5b6.5b6.10 5b7.5b7.11 5b8.5b8.12 5b9.5ba.13 5bb.5bb.14
5bc.5bc.15 5bd.5bd.16 5bf.5bf.17 5c1.5c1.18 5c2.5c2.19 5c4.5c4.e6 5c5.5c5.dc 5c7.5c7.12 610.617.e6
618.618.1e 619.619.1f 61a.61a.20 64b.64b.1b 64c.64c.1c 64d.64d.1d 64e.64e.1e 64f.64f.1f 650.650.20
651.651.21 652.652.22 653.654.e6 655.656.dc 657.65b.e6 65c.65c.dc 65d.65e.e6 65f.65f.dc 670.670.23
6d6.6dc.e6 6df.6e2.e6 6e3.6e3.dc 6e4.6e4.e6 6e7.6e8.e6 6ea.6ea.dc 6eb.6ec.e6 6ed.6ed.dc 711.711.24
730.730.e6 731.731.dc 732.733.e6 734.734.dc 735.736.e6 737.739.dc 73a.73a.e6 73b.73c.dc 73d.73d.e6
73e.73e.dc 73f.741.e6 742.742.dc 743.743.e6 744.744.dc 745.745.e6 746.746.dc 747.747.e6 748.748.dc
749.74a.e6 7eb.7f1.e6 7f2.7f2.dc 7f3.7f3.e6 7fd.7fd.dc 816.819.e6 81b.823.e6 825.827.e6 829.82d.e6
859.85b.dc 897.898.e6 899.89b.dc 89c.89f.e6 8ca.8ce.e6 8cf.8d3.dc 8d4.8e1.e6 8e3.8e3.dc 8e4.8e5.e6
8e6.8e6.dc 8e7.8e8.e6 8e9.8e9.dc 8ea.8ec.e6 8ed.8ef.dc 8f0.8f0.1b 8f1.8f1.1c 8f2.8f2.1d 8f3.8f5.e6
8f6.8f6.dc 8f7.8f8.e6 8f9.8fa.dc 8fb.8ff.e6 93c.93c.7 94d.94d.9 951.951.e6 952.952.dc 953.954.e6
9bc.9bc.7 9cd.9cd.9 9fe.9fe.e6 a3c.a3c.7 a4d.a4d.9 abc.abc.7 acd.acd.9 b3c.b3c.7 b4d.b4d.9
bcd.bcd.9 c3c.c3c.7 c4d.c4d.9 c55.c55.54 c56.c56.5b cbc.cbc.7 ccd.ccd.9 d3b.d3c.9 d4d.d4d.9
dca.dca.9 e38.e39.67 e3a.e3a.9 e48.e4b.6b eb8.eb9.76 eba.eba.9 ec8.ecb.7a f18.f19.dc f35.f35.dc
f37.f37.dc f39.f39.d8 f71.f71.81 f72.f72.82 f74.f74.84 f7a.f7d.82 f80.f80.82 f82.f83.e6 f84.f84.9
f86.f87.e6 fc6.fc6.dc 1037.1037.7 1039.103a.9 108d.108d.dc 135d.135f.e6 1714.1715.9 1734.1734.9
17d2.17d2.9 17dd.17dd.e6 18a9.18a9.e4 1939.1939.de 193a.193a.e6 193b.193b.dc 1a17.1a17.e6
1a18.1a18.dc 1a60.1a60.9 1a75.1a7c.e6 1a7f.1a7f.dc 1ab0.1ab4.e6 1ab5.1aba.dc 1abb.1abc.e6
1abd.1abd.dc 1abf.1ac0.dc 1ac1.1ac2.e6 1ac3.1ac4.dc 1ac5.1ac9.e6 1aca.1aca.dc 1acb.1adc.e6
1add.1add.dc 1ae0.1ae5.e6 1ae6.1ae6.dc 1ae7.1aea.e6 1aeb.1aeb.ea 1b34.1b34.7 1b44.1b44.9
1b6b.1b6b.e6 1b6c.1b6c.dc 1b6d.1b73.e6 1baa.1bab.9 1be6.1be6.7 1bf2.1bf3.9 1c37.1c37.7
1cd0.1cd2.e6 1cd4.1cd4.1 1cd5.1cd9.dc 1cda.1cdb.e6 1cdc.1cdf.dc 1ce0.1ce0.e6 1ce2.1ce8.1
1ced.1ced.dc 1cf4.1cf4.e6 1cf8.1cf9.e6 1dc0.1dc1.e6 1dc2.1dc2.dc 1dc3.1dc9.e6 1dca.1dca.dc
1dcb.1dcc.e6 1dcd.1dcd.ea 1dce.1dce.d6 1dcf.1dcf.dc 1dd0.1dd0.ca 1dd1.1df5.e6 1df6.1df6.e8
1df7.1df8.e4 1df9.1df9.dc 1dfa.1dfa.da 1dfb.1dfb.e6 1dfc.1dfc.e9 1dfd.1dfd.dc 1dfe.1dfe.e6
1dff.1dff.dc 20d0.20d1.e6 20d2.20d3.1 20d4.20d7.e6 20d8.20da.1 20db.20dc.e6 20e1.20e1.e6
20e5.20e6.1 20e7.20e7.e6 20e8.20e8.dc 20e9.20e9.e6 20ea.20eb.1 20ec.20ef.dc 20f0.20f0.e6
2cef.2cf1.e6 2d7f.2d7f.9 2de0.2dff.e6 302a.302a.da 302b.302b.e4 302c.302c.e8 302d.302d.de
302e.302f.e0 3099.309a.8 a66f.a66f.e6 a674.a67d.e6 a69e.a69f.e6 a6f0.a6f1.e6 a806.a806.9
a82c.a82c.9 a8c4.a8c4.9 a8e0.a8f1.e6 a92b.a92d.dc a953.a953.9 a9b3.a9b3.7 a9c0.a9c0.9 aab0.aab0.e6
aab2.aab3.e6 aab4.aab4.dc aab7.aab8.e6 aabe.aabf.e6 aac1.aac1.e6 aaf6.aaf6.9 abed.abed.9
fb1e.fb1e.1a fe20.fe26.e6 fe27.fe2d.dc fe2e.fe2f.e6 101fd.101fd.dc 102e0.102e0.dc 10376.1037a.e6
10a0d.10a0d.dc 10a0f.10a0f.e6 10a38.10a38.e6 10a39.10a39.1 10a3a.10a3a.dc 10a3f.10a3f.9
10ae5.10ae5.e6 10ae6.10ae6.dc 10d24.10d27.e6 10d69.10d6d.e6 10eab.10eac.e6 10efa.10efb.dc
10efd.10eff.dc 10f46.10f47.dc 10f48.10f4a.e6 10f4b.10f4b.dc 10f4c.10f4c.e6 10f4d.10f50.dc
10f82.10f82.e6 10f83.10f83.dc 10f84.10f84.e6 10f85.10f85.dc 11046.11046.9 11070.11070.9
1107f.1107f.9 110b9.110b9.9 110ba.110ba.7 11100.11102.e6 11133.11134.9 11173.11173.7 111c0.111c0.9
111ca.111ca.7 11235.11235.9 11236.11236.7 112e9.112e9.7 112ea.112ea.9 1133b.1133c.7 1134d.1134d.9
11366.11374.e6 113ce.113d0.9 11442.11442.9 11446.11446.7 1145e.1145e.e6 114c2.114c2.9
114c3.114c3.7 115bf.115bf.9 115c0.115c0.7 1163f.1163f.9 116b6.116b6.9 116b7.116b7.7 1172b.1172b.9
11839.11839.9 1183a.1183a.7 1193d.1193e.9 11943.11943.7 119e0.119e0.9 11a34.11a34.9 11a47.11a47.9
11a99.11a99.9 11c3f.11c3f.9 11d42.11d42.7 11d44.11d45.9 11d97.11d97.9 11f41.11f42.9 1612f.1612f.9
16af0.16af4.1 16b30.16b36.e6 16ff0.16ff1.6 1bc9e.1bc9e.1 1d165.1d166.d8 1d167.1d169.1
1d16d.1d16d.e2 1d16e.1d172.d8 1d17b.1d182.dc 1d185.1d189.e6 1d18a.1d18b.dc 1d1aa.1d1ad.e6
1d242.1d244.e6 1e000.1e08f.e6 1e130.1e136.e6 1e2ae.1e2ae.e6 1e2ec.1e2ef.e6 1e4ec.1e4ed.e8
1e4ee.1e4ee.dc 1e4ef.1e4ef.e6 1e5ee.1e5ee.e6 1e5ef.1e5ef.dc 1e6e3.1e6e3.e6 1e6e6.1e6e6.e6
1e6ee.1e6ef.e6 1e6f5.1e6f5.e6 1e8d0.1e8d6.dc 1e944.1e949.e6 1e94a.1e94a.7"

/-- Ranges of marks. -/
def markRanges : String :=
  "300.36f 483.489 591.5bd 5bf.5bf 5c1.5c2 5c4.5c5 5c7.5c7 610.61a 64b.65f 670.670 6d6.6dc 6df.6e4
6e7.6e8 6ea.6ed 711.711 730.74a 7a6.7b0 7eb.7f3 7fd.7fd 816.819 81b.823 825.827 829.82d 859.85b
897.89f 8ca.903 93a.93c 93e.94f 951.957 962.963 981.983 9bc.9bc 9be.9cd 9d7.9d7 9e2.9e3 9fe.a03
a3c.a51 a70.a71 a75.a75 a81.a83 abc.abc abe.acd ae2.ae3 afa.b03 b3c.b3c b3e.b57 b62.b63 b82.b82
bbe.bcd bd7.bd7 c00.c04 c3c.c3c c3e.c56 c62.c63 c81.c83 cbc.cbc cbe.cd6 ce2.ce3 cf3.d03 d3b.d3c
d3e.d4d d57.d57 d62.d63 d81.d83 dca.ddf df2.df3 e31.e31 e34.e3a e47.e4e eb1.eb1 eb4.ebc ec8.ece
f18.f19 f35.f35 f37.f37 f39.f39 f3e.f3f f71.f84 f86.f87 f8d.fbc fc6.fc6 102b.103e 1056.1059
105e.1060 1062.1064 1067.106d 1071.1074 1082.108d 108f.108f 109a.109d 135d.135f 1712.1715
1732.1734 1752.1753 1772.1773 17b6.17d3 17dd.17dd 1885.1886 18a9.18a9 1920.193b 1a17.1a1b
1a55.1a7f 1ab0.1b04 1b34.1b44 1b6b.1b73 1b80.1b82 1ba1.1bad 1be6.1bf3 1c24.1c37 1cd0.1cd2
1cd4.1ce8 1ced.1ced 1cf4.1cf4 1cf7.1cf9 1dc0.1dff 20d0.20f0 2cef.2cf1 2d7f.2d7f 2de0.2dff
302a.302f 3099.309a a66f.a672 a674.a67d a69e.a69f a6f0.a6f1 a802.a802 a806.a806 a80b.a80b
a823.a827 a82c.a82c a880.a881 a8b4.a8c5 a8e0.a8f1 a8ff.a8ff a926.a92d a947.a953 a980.a983
a9b3.a9c0 a9e5.a9e5 aa29.aa36 aa43.aa43 aa4c.aa4d aa7b.aa7d aab0.aab0 aab2.aab4 aab7.aab8
aabe.aabf aac1.aac1 aaeb.aaef aaf5.aaf6 abe3.abea abec.abed fb1e.fb1e fe20.fe2f 101fd.101fd
102e0.102e0 10376.1037a 10a01.10a0f 10a38.10a3f 10ae5.10ae6 10d24.10d27 10d69.10d6d 10eab.10eac
10efa.10eff 10f46.10f50 10f82.10f85 11000.11002 11038.11046 11070.11070 11073.11074 1107f.11082
110b0.110ba 110c2.110c2 11100.11102 11127.11134 11145.11146 11173.11173 11180.11182 111b3.111c0
111c9.111cc 111ce.111cf 1122c.11237 1123e.1123e 11241.11241 112df.112ea 11300.11303 1133b.1133c
1133e.1134d 11357.11357 11362.11374 113b8.113d0 113d2.113d2 113e1.113e2 11435.11446 1145e.1145e
114b0.114c3 115af.115c0 115dc.115dd 11630.11640 116ab.116b7 1171d.1172b 1182c.1183a 11930.1193e
11940.11940 11942.11943 119d1.119e0 119e4.119e4 11a01.11a0a 11a33.11a39 11a3b.11a3e 11a47.11a47
11a51.11a5b 11a8a.11a99 11b60.11b67 11c2f.11c3f 11c92.11cb6 11d31.11d45 11d47.11d47 11d8a.11d97
11ef3.11ef6 11f00.11f01 11f03.11f03 11f34.11f42 11f5a.11f5a 13440.13440 13447.13455 1611e.1612f
16af0.16af4 16b30.16b36 16f4f.16f4f 16f51.16f92 16fe4.16ff1 1bc9d.1bc9e 1cf00.1cf46 1d165.1d169
1d16d.1d182 1d185.1d18b 1d1aa.1d1ad 1d242.1d244 1da00.1da36 1da3b.1da6c 1da75.1da75 1da84.1da84
1da9b.1daaf 1e000.1e08f 1e130.1e136 1e2ae.1e2ae 1e2ec.1e2ef 1e4ec.1e4ef 1e5ee.1e5ef 1e6e3.1e6e3
1e6e6.1e6e6 1e6ee.1e6ef 1e6f5.1e6f5 1e8d0.1e8d6 1e944.1e94a"

/-- Ranges of characters that are not left-to-right, with their direction: 1 right-to-left, 2 Arabic
number, 3 European number, 4 neutral, 5 nonspacing mark, 6 none that a label may have. -/
def directionRanges : String :=
  "a1.d7.4 f7.f7.4 2b9.2ba.4 2c2.2cf.4 2d2.2ed.4 2ef.2ff.4 300.36f.5 375.375.4 3f6.3f6.4 483.489.5
58a.58f.4 591.5bd.5 5be.5be.1 5bf.5bf.5 5c0.5c0.1 5c1.5c2.5 5c3.5c3.1 5c4.5c5.5 5c6.5c6.1
5c7.5c7.5 5d0.5f4.1 606.607.4 608.608.1 609.60a.4 60b.60b.1 60c.60c.4 60d.60d.1 60e.60f.4
610.61a.5 61b.64a.1 64b.65f.5 660.669.2 66a.66a.4 66b.66c.2 66d.66f.1 670.670.5 671.6d5.1
6d6.6dc.5 6de.6de.4 6df.6e4.5 6e5.6e6.1 6e7.6e8.5 6e9.6e9.4 6ea.6ed.5 6ee.6ef.1 6f0.6f9.3
6fa.710.1 711.711.5 712.72f.1 730.74a.5 74d.7a5.1 7a6.7b0.5 7b1.7ea.1 7eb.7f3.5 7f4.7f5.1
7f6.7f9.4 7fa.7fa.1 7fd.7fd.5 7fe.815.1 816.819.5 81a.81a.1 81b.823.5 824.824.1 825.827.5
828.828.1 829.82d.5 830.858.1 859.85b.5 85e.897.1 898.89f.5 8a0.8c9.1 8ca.902.5 93a.93a.5
93c.93c.5 941.948.5 94d.94d.5 951.957.5 962.963.5 981.981.5 9bc.9bc.5 9c1.9c4.5 9cd.9cd.5
9e2.9e3.5 9f2.9f3.4 9fb.9fb.4 9fe.a02.5 a3c.a3c.5 a41.a51.5 a70.a71.5 a75.a75.5 a81.a82.5
abc.abc.5 ac1.ac8.5 acd.acd.5 ae2.ae3.5 af1.af1.4 afa.b01.5 b3c.b3c.5 b3f.b3f.5 b41.b44.5
b4d.b56.5 b62.b63.5 b82.b82.5 bc0.bc0.5 bcd.bcd.5 bf3.bfa.4 c00.c00.5 c04.c04.5 c3c.c3c.5
c3e.c40.5 c46.c56.5 c62.c63.5 c78.c7e.4 c81.c81.5 cbc.cbc.5 ccc.ccd.5 ce2.ce3.5 d00.d01.5
d3b.d3c.5 d41.d44.5 d4d.d4d.5 d62.d63.5 d81.d81.5 dca.dca.5 dd2.dd6.5 e31.e31.5 e34.e3a.5
e3f.e3f.4 e47.e4e.5 eb1.eb1.5 eb4.ebc.5 ec8.ece.5 f18.f19.5 f35.f35.5 f37.f37.5 f39.f39.5
f3a.f3d.4 f71.f7e.5 f80.f84.5 f86.f87.5 f8d.fbc.5 fc6.fc6.5 102d.1030.5 1032.1037.5 1039.103a.5
103d.103e.5 1058.1059.5 105e.1060.5 1071.1074.5 1082.1082.5 1085.1086.5 108d.108d.5 109d.109d.5
135d.135f.5 1390.1399.4 1400.1400.4 169b.169c.4 1712.1714.5 1732.1733.5 1752.1753.5 1772.1773.5
17b7.17bd.5 17c6.17c6.5 17c9.17d3.5 17db.17db.4 17dd.17dd.5 17f0.180a.4 1885.1886.5 18a9.18a9.5
1920.1922.5 1927.1928.5 1932.1932.5 1939.193b.5 1940.1945.4 19de.19ff.4 1a17.1a18.5 1a1b.1a1b.5
1a56.1a56.5 1a58.1a60.5 1a62.1a62.5 1a65.1a6c.5 1a73.1a7f.5 1ab0.1ace.5 1b00.1b03.5 1b34.1b34.5
1b36.1b3a.5 1b3c.1b3c.5 1b42.1b42.5 1b6b.1b73.5 1b80.1b81.5 1ba2.1ba5.5 1ba8.1ba9.5 1bab.1bad.5
1be6.1be6.5 1be8.1be9.5 1bed.1bed.5 1bef.1bf1.5 1c2c.1c33.5 1c36.1c37.5 1cd0.1cd2.5 1cd4.1ce0.5
1ce2.1ce8.5 1ced.1ced.5 1cf4.1cf4.5 1cf8.1cf9.5 1dc0.1dff.5 200c.20c1.4 20d0.20f0.5 2104.214d.4
218a.2335.4 237b.2394.4 2396.2426.4 2440.26ab.4 26ad.27ff.4 2900.2b95.4 2b97.2bff.4 2ce5.2cea.4
2cef.2cf1.5 2cf9.2cff.4 2d7f.2d7f.5 2de0.2dff.5 2e00.3004.4 3008.3020.4 302a.302d.5 3030.3030.4
3037.3037.4 303d.303f.4 3099.309a.5 30a0.30a0.4 30fb.30fb.4 31c0.31e3.4 4dc0.4dff.4 a490.a4c6.4
a60d.a60f.4 a66f.a672.5 a673.a673.4 a674.a67d.5 a67e.a67f.4 a69e.a69f.5 a6f0.a6f1.5 a700.a721.4
a788.a788.4 a802.a802.5 a806.a806.5 a80b.a80b.5 a825.a826.5 a828.a82b.4 a82c.a82c.5 a838.a839.4
a874.a877.4 a8c4.a8c5.5 a8e0.a8f1.5 a8ff.a8ff.5 a926.a92d.5 a947.a951.5 a980.a982.5 a9b3.a9b3.5
a9b6.a9b9.5 a9bc.a9bd.5 a9e5.a9e5.5 aa29.aa2e.5 aa31.aa32.5 aa35.aa36.5 aa43.aa43.5 aa4c.aa4c.5
aa7c.aa7c.5 aab0.aab0.5 aab2.aab4.5 aab7.aab8.5 aabe.aabf.5 aac1.aac1.5 aaec.aaed.5 aaf6.aaf6.5
ab6a.ab6b.4 abe5.abe5.5 abe8.abe8.5 abed.abed.5 fb1e.fb1e.5 fbb2.fbd2.1 fd3e.fd4f.4 fd90.fdce.1
fdcf.fdff.4 fe20.fe2f.5 fe45.fe46.4 fe73.fe73.1 10101.10101.4 10140.1018c.4 10190.101a0.4
101fd.101fd.5 102e0.102e0.5 102e1.102fb.3 10376.1037a.5 10800.1091b.1 1091f.1091f.4 10920.10a00.1
10a01.10a0f.5 10a10.10a35.1 10a38.10a3f.5 10a40.10ae4.1 10ae5.10ae6.5 10aeb.10b35.1 10b39.10b3f.4
10b40.10d23.1 10d24.10d27.5 10d30.10d39.2 10d40.10d8f.1 10e60.10e7e.2 10e80.10ea9.1 10eab.10eac.5
10ead.10efc.1 10efd.10eff.5 10f00.10f45.1 10f46.10f50.5 10f51.10f81.1 10f82.10f85.5 10f86.10ff6.1
11001.11001.5 11038.11046.5 11052.11065.4 11070.11070.5 11073.11074.5 1107f.11081.5 110b3.110b6.5
110b9.110ba.5 110c2.110c2.5 11100.11102.5 11127.1112b.5 1112d.11134.5 11173.11173.5 11180.11181.5
111b6.111be.5 111c9.111cc.5 111cf.111cf.5 1122f.11231.5 11234.11234.5 11236.11237.5 1123e.1123e.5
11241.11241.5 112df.112df.5 112e3.112ea.5 11300.11301.5 1133b.1133c.5 11340.11340.5 11366.11374.5
11438.1143f.5 11442.11444.5 11446.11446.5 1145e.1145e.5 114b3.114b8.5 114ba.114ba.5 114bf.114c0.5
114c2.114c3.5 115b2.115b5.5 115bc.115bd.5 115bf.115c0.5 115dc.115dd.5 11633.1163a.5 1163d.1163d.5
1163f.11640.5 11660.1166c.4 116ab.116ab.5 116ad.116ad.5 116b0.116b5.5 116b7.116b7.5 1171d.1171f.5
11722.11725.5 11727.1172b.5 1182f.11837.5 11839.1183a.5 1193b.1193c.5 1193e.1193e.5 11943.11943.5
119d4.119db.5 119e0.119e0.5 11a01.11a06.5 11a09.11a0a.5 11a33.11a38.5 11a3b.11a3e.5 11a47.11a47.5
11a51.11a56.5 11a59.11a5b.5 11a8a.11a96.5 11a98.11a99.5 11c30.11c3d.5 11c92.11ca7.5 11caa.11cb0.5
11cb2.11cb3.5 11cb5.11cb6.5 11d31.11d45.5 11d47.11d47.5 11d90.11d91.5 11d95.11d95.5 11d97.11d97.5
11ef3.11ef4.5 11f00.11f01.5 11f36.11f3a.5 11f40.11f40.5 11f42.11f42.5 11fd5.11ff1.4 13440.13440.5
13447.13455.5 16af0.16af4.5 16b30.16b36.5 16f4f.16f4f.5 16f8f.16f92.5 16fe2.16fe2.4 16fe4.16fe4.5
1bc9d.1bc9e.5 1cf00.1cf46.5 1d167.1d169.5 1d17b.1d182.5 1d185.1d18b.5 1d1aa.1d1ad.5 1d1e9.1d241.4
1d242.1d244.5 1d245.1d245.4 1d300.1d356.4 1da00.1da36.5 1da3b.1da6c.5 1da75.1da75.5 1da84.1da84.5
1da9b.1daaf.5 1e000.1e08f.5 1e130.1e136.5 1e2ae.1e2ae.5 1e2ec.1e2ef.5 1e2ff.1e2ff.4 1e4ec.1e4ef.5
1e800.1e8cf.1 1e8d0.1e8d6.5 1e922.1e943.1 1e944.1e94a.5 1e94b.1ed3d.1 1eef0.1f12f.4 1f16d.1f16f.4
1f1ad.1f1ad.4 1f260.1f6d7.4 1f6dc.1f776.4 1f77b.1f8b1.4 1f900.1fa53.4 1fa60.1fa88.4 1fa90.1fabd.4
1fabf.1fac5.4 1face.1fadb.4 1fae0.1fae8.4 1faf0.1fbca.4"

/-- Ranges of characters with a joining type: 1 transparent, 2 dual-joining, 3 left-joining,
4 right-joining. -/
def joiningRanges : String :=
  "300.36f.1 483.489.1 591.5bd.1 5bf.5bf.1 5c1.5c2.1 5c4.5c5.1 5c7.5c7.1 610.61a.1 620.620.2
622.625.4 626.626.2 627.627.4 628.628.2 629.629.4 62a.62e.2 62f.632.4 633.63f.2 641.647.2
648.648.4 649.64a.2 64b.65f.1 66e.66f.2 670.670.1 671.673.4 679.687.2 688.699.4 69a.6bf.2
6c0.6c0.4 6c1.6c2.2 6c3.6cb.4 6cc.6cc.2 6cd.6cd.4 6ce.6ce.2 6cf.6cf.4 6d0.6d1.2 6d2.6d3.4
6d5.6d5.4 6d6.6dc.1 6df.6e4.1 6e7.6e8.1 6ea.6ed.1 6ee.6ef.4 6fa.6fc.2 6ff.6ff.2 710.710.4
711.711.1 712.714.2 715.719.4 71a.71d.2 71e.71e.4 71f.727.2 728.728.4 729.729.2 72a.72a.4
72b.72b.2 72c.72c.4 72d.72e.2 72f.72f.4 730.74a.1 74d.74d.4 74e.758.2 759.75b.4 75c.76a.2
76b.76c.4 76d.770.2 771.771.4 772.772.2 773.774.4 775.777.2 778.779.4 77a.77f.2 7a6.7b0.1
7ca.7ea.2 7eb.7f3.1 7fd.7fd.1 816.819.1 81b.823.1 825.827.1 829.82d.1 840.840.4 841.845.2
846.847.4 848.848.2 849.849.4 84a.853.2 854.854.4 855.855.2 856.858.4 859.85b.1 860.860.2
862.865.2 867.867.4 868.868.2 869.882.4 886.886.2 889.88d.2 88e.88e.4 88f.88f.2 897.89f.1
8a0.8a9.2 8aa.8ac.4 8ae.8ae.4 8af.8b0.2 8b1.8b2.4 8b3.8b8.2 8b9.8b9.4 8ba.8c8.2 8ca.902.1
93a.93a.1 93c.93c.1 941.948.1 94d.94d.1 951.957.1 962.963.1 981.981.1 9bc.9bc.1 9c1.9c4.1
9cd.9cd.1 9e2.9e3.1 9fe.a02.1 a3c.a3c.1 a41.a51.1 a70.a71.1 a75.a75.1 a81.a82.1 abc.abc.1
ac1.ac8.1 acd.acd.1 ae2.ae3.1 afa.b01.1 b3c.b3c.1 b3f.b3f.1 b41.b44.1 b4d.b56.1 b62.b63.1
b82.b82.1 bc0.bc0.1 bcd.bcd.1 c00.c00.1 c04.c04.1 c3c.c3c.1 c3e.c40.1 c46.c56.1 c62.c63.1
c81.c81.1 cbc.cbc.1 cbf.cbf.1 cc6.cc6.1 ccc.ccd.1 ce2.ce3.1 d00.d01.1 d3b.d3c.1 d41.d44.1
d4d.d4d.1 d62.d63.1 d81.d81.1 dca.dca.1 dd2.dd6.1 e31.e31.1 e34.e3a.1 e47.e4e.1 eb1.eb1.1
eb4.ebc.1 ec8.ece.1 f18.f19.1 f35.f35.1 f37.f37.1 f39.f39.1 f71.f7e.1 f80.f84.1 f86.f87.1
f8d.fbc.1 fc6.fc6.1 102d.1030.1 1032.1037.1 1039.103a.1 103d.103e.1 1058.1059.1 105e.1060.1
1071.1074.1 1082.1082.1 1085.1086.1 108d.108d.1 109d.109d.1 135d.135f.1 1712.1714.1 1732.1733.1
1752.1753.1 1772.1773.1 17b7.17bd.1 17c6.17c6.1 17c9.17d3.1 17dd.17dd.1 1807.1807.2 1820.1878.2
1885.1886.1 1887.18a8.2 18a9.18a9.1 18aa.18aa.2 1920.1922.1 1927.1928.1 1932.1932.1 1939.193b.1
1a17.1a18.1 1a1b.1a1b.1 1a56.1a56.1 1a58.1a60.1 1a62.1a62.1 1a65.1a6c.1 1a73.1a7f.1 1ab0.1b03.1
1b34.1b34.1 1b36.1b3a.1 1b3c.1b3c.1 1b42.1b42.1 1b6b.1b73.1 1b80.1b81.1 1ba2.1ba5.1 1ba8.1ba9.1
1bab.1bad.1 1be6.1be6.1 1be8.1be9.1 1bed.1bed.1 1bef.1bf1.1 1c2c.1c33.1 1c36.1c37.1 1cd0.1cd2.1
1cd4.1ce0.1 1ce2.1ce8.1 1ced.1ced.1 1cf4.1cf4.1 1cf8.1cf9.1 1dc0.1dff.1 20d0.20f0.1 2cef.2cf1.1
2d7f.2d7f.1 2de0.2dff.1 302a.302d.1 3099.309a.1 a66f.a672.1 a674.a67d.1 a69e.a69f.1 a6f0.a6f1.1
a802.a802.1 a806.a806.1 a80b.a80b.1 a825.a826.1 a82c.a82c.1 a840.a871.2 a872.a872.3 a8c4.a8c5.1
a8e0.a8f1.1 a8ff.a8ff.1 a926.a92d.1 a947.a951.1 a980.a982.1 a9b3.a9b3.1 a9b6.a9b9.1 a9bc.a9bd.1
a9e5.a9e5.1 aa29.aa2e.1 aa31.aa32.1 aa35.aa36.1 aa43.aa43.1 aa4c.aa4c.1 aa7c.aa7c.1 aab0.aab0.1
aab2.aab4.1 aab7.aab8.1 aabe.aabf.1 aac1.aac1.1 aaec.aaed.1 aaf6.aaf6.1 abe5.abe5.1 abe8.abe8.1
abed.abed.1 fb1e.fb1e.1 fe20.fe2f.1 101fd.101fd.1 102e0.102e0.1 10376.1037a.1 10a01.10a0f.1
10a38.10a3f.1 10ac0.10ac4.2 10ac5.10ac5.4 10ac7.10ac7.4 10ac9.10aca.4 10acd.10acd.3 10ace.10ad2.4
10ad3.10ad6.2 10ad7.10ad7.3 10ad8.10adc.2 10add.10add.4 10ade.10ae0.2 10ae1.10ae1.4 10ae4.10ae4.4
10ae5.10ae6.1 10aeb.10aee.2 10aef.10aef.4 10b80.10b80.2 10b81.10b81.4 10b82.10b82.2 10b83.10b85.4
10b86.10b88.2 10b89.10b89.4 10b8a.10b8b.2 10b8c.10b8c.4 10b8d.10b8d.2 10b8e.10b8f.4 10b90.10b90.2
10b91.10b91.4 10ba9.10bac.4 10bad.10bae.2 10d00.10d00.3 10d01.10d21.2 10d22.10d22.4 10d23.10d23.2
10d24.10d27.1 10d69.10d6d.1 10eab.10eac.1 10ec2.10ec2.4 10ec3.10ec4.2 10ec6.10ec7.2 10efa.10eff.1
10f30.10f32.2 10f33.10f33.4 10f34.10f44.2 10f46.10f50.1 10f51.10f53.2 10f54.10f54.4 10f70.10f73.2
10f74.10f75.4 10f76.10f81.2 10f82.10f85.1 10fb0.10fb0.2 10fb2.10fb3.2 10fb4.10fb6.4 10fb8.10fb8.2
10fb9.10fba.4 10fbb.10fbc.2 10fbd.10fbd.4 10fbe.10fbf.2 10fc1.10fc1.2 10fc2.10fc3.4 10fc4.10fc4.2
10fc9.10fc9.4 10fca.10fca.2 10fcb.10fcb.3 11001.11001.1 11038.11046.1 11070.11070.1 11073.11074.1
1107f.11081.1 110b3.110b6.1 110b9.110ba.1 110c2.110c2.1 11100.11102.1 11127.1112b.1 1112d.11134.1
11173.11173.1 11180.11181.1 111b6.111be.1 111c9.111cc.1 111cf.111cf.1 1122f.11231.1 11234.11234.1
11236.11237.1 1123e.1123e.1 11241.11241.1 112df.112df.1 112e3.112ea.1 11300.11301.1 1133b.1133c.1
11340.11340.1 11366.11374.1 113bb.113c0.1 113ce.113ce.1 113d0.113d0.1 113d2.113d2.1 113e1.113e2.1
11438.1143f.1 11442.11444.1 11446.11446.1 1145e.1145e.1 114b3.114b8.1 114ba.114ba.1 114bf.114c0.1
114c2.114c3.1 115b2.115b5.1 115bc.115bd.1 115bf.115c0.1 115dc.115dd.1 11633.1163a.1 1163d.1163d.1
1163f.11640.1 116ab.116ab.1 116ad.116ad.1 116b0.116b5.1 116b7.116b7.1 1171d.1171d.1 1171f.1171f.1
11722.11725.1 11727.1172b.1 1182f.11837.1 11839.1183a.1 1193b.1193c.1 1193e.1193e.1 11943.11943.1
119d4.119db.1 119e0.119e0.1 11a01.11a0a.1 11a33.11a38.1 11a3b.11a3e.1 11a47.11a47.1 11a51.11a56.1
11a59.11a5b.1 11a8a.11a96.1 11a98.11a99.1 11b60.11b60.1 11b62.11b64.1 11b66.11b66.1 11c30.11c3d.1
11c3f.11c3f.1 11c92.11ca7.1 11caa.11cb0.1 11cb2.11cb3.1 11cb5.11cb6.1 11d31.11d45.1 11d47.11d47.1
11d90.11d91.1 11d95.11d95.1 11d97.11d97.1 11ef3.11ef4.1 11f00.11f01.1 11f36.11f3a.1 11f40.11f40.1
11f42.11f42.1 11f5a.11f5a.1 13440.13440.1 13447.13455.1 1611e.16129.1 1612d.1612f.1 16af0.16af4.1
16b30.16b36.1 16f4f.16f4f.1 16f8f.16f92.1 16fe4.16fe4.1 1bc9d.1bc9e.1 1cf00.1cf46.1 1d167.1d169.1
1d17b.1d182.1 1d185.1d18b.1 1d1aa.1d1ad.1 1d242.1d244.1 1da00.1da36.1 1da3b.1da6c.1 1da75.1da75.1
1da84.1da84.1 1da9b.1daaf.1 1e000.1e08f.1 1e130.1e136.1 1e2ae.1e2ae.1 1e2ec.1e2ef.1 1e4ec.1e4ef.1
1e5ee.1e5ef.1 1e6e3.1e6e3.1 1e6e6.1e6e6.1 1e6ee.1e6ef.1 1e6f5.1e6f5.1 1e8d0.1e8d6.1 1e922.1e943.2
1e944.1e94b.1"

end Courier.Url.Idna
